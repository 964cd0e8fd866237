import Gazette.Text
import Gazette.Time.Instant
import Gazette.Url.Basic

/-!
# Articles

`Article` is the record of an article. Linked data, head and body of a page each fill a draft of it;
`Article.merge` makes one record of two drafts. What is missing is empty.
-/

namespace Gazette

/-- An article, or a draft of one. -/
structure Article where
  /-- The title. -/
  title : String := ""
  /-- The address. -/
  link : Option Url := none
  /-- The description. -/
  description : String := ""
  /-- The language. -/
  language : String := ""
  /-- The authors. -/
  authors : List String := []
  /-- The category. -/
  category : String := ""
  /-- The identifier. -/
  guid : String := ""
  /-- When it was published. -/
  published : Option Time.Instant := none
  /-- The paragraphs. -/
  content : List String := []
  /-- The tags. -/
  tags : List String := []
  /-- The identifiers of related articles. -/
  related : List String := []
deriving DecidableEq, Repr

/-- A sorted list of texts with `s` at its place, each text once. -/
def insertText (s : String) : List String → List String
  | [] => [s]
  | t :: rest =>
    if s < t then s :: t :: rest
    else if s = t then t :: rest
    else t :: insertText s rest

/-- The texts of `l` in order, each once, without the empty one. -/
def sortedTexts (l : List String) : List String :=
  (l.filter fun s ↦ !s.isEmpty).foldl (fun sorted s ↦ insertText s sorted) []

namespace Article

/-- The text `a`, or `b` if `a` is empty. -/
def firstText (a b : String) : String := if a.isEmpty then b else a

/-- The list `a`, or `b` if `a` is empty. -/
def firstList (a b : List String) : List String := if a.isEmpty then b else a

/-- One record of two drafts: what `a` lacks comes from `b` by `firstText` and `firstList`, and tags and related
articles from both by `sortedTexts`. -/
def merge (a b : Article) : Article where
  title := firstText a.title b.title
  link := a.link.or b.link
  description := firstText a.description b.description
  language := firstText a.language b.language
  authors := firstList a.authors b.authors
  category := firstText a.category b.category
  guid := firstText a.guid b.guid
  published := a.published.or b.published
  content := firstList a.content b.content
  tags := sortedTexts (a.tags ++ b.tags)
  related := sortedTexts (a.related ++ b.related)

/-- The record `a` with more tags, all in the order of `sortedTexts`. -/
def addTags (a : Article) (tags : List String) : Article :=
  { a with tags := sortedTexts (a.tags ++ tags) }

/-- The record `a` with the related article `guid`, unless that is empty or there. -/
def addRelated (a : Article) (guid : String) : Article :=
  if guid.isEmpty || a.related.contains guid then a
  else { a with related := a.related ++ [guid] }

/-- The host of `Article.link`. -/
def source (a : Article) : Option String := a.link.bind fun u ↦ u.hostText?.map String.ofList

/-- `Article.link` as text, empty if there is none. -/
def linkText (a : Article) : String :=
  match a.link with
  | some u => u.href
  | none => ""

end Article

end Gazette
