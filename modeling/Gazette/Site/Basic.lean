import Gazette.Article.Related
import Gazette.Head.Basic
import Gazette.LinkedData.Basic
import Gazette.LinkedData.Block

/-!
# Sites

A `Site` is the set of rules by which its articles are read: which domains are its own, how an address
identifies an article (`Site.guid`), where the parts of a page stand (`Layout`), and what is to be made of
linked data (`Site.fromScripts`), head (`Site.fromHeadAt`) and body (`Site.fromBody`).
-/

namespace Gazette

/-- Where the parts of a page stand. -/
structure Layout where
  /-- The head. -/
  head : String := "head"
  /-- The body. -/
  body : String := "body"
  /-- The scripts with linked data. -/
  linkedData : String := "script[type='application/ld+json']"
deriving DecidableEq, Repr

/-- The type that linked data of an article usually have. -/
def newsArticle : String := "NewsArticle"

/-- The rules of a site. -/
structure Site where
  /-- Its name. -/
  name : String
  /-- Its domains. -/
  domains : List String
  /-- The identifier of the article at an address. -/
  guid : Url → String
  /-- Where the parts of its pages stand. -/
  layout : Layout := {}
  /-- Whether its pages hold linked data. -/
  publishesLinkedData : Bool := true
  /-- The type of the linked data that describe an article. -/
  linkedDataType : String := newsArticle
  /-- Mends a block of linked data before it is decoded. -/
  mend : String → String := id
  /-- What linked data change in a draft beyond what they always fill. -/
  afterLinkedData : LinkedData → Article → Article := fun _ draft ↦ draft
  /-- With which selectors the fields of a head are found. -/
  headTable : HeadTable := .standard
  /-- Fills a draft from a head. The text is the address of the page. -/
  fromHead : Head → String → Article → Article × Option Failure
  /-- Completes a record from the body of a page. -/
  fromBody : Html.Spot → Article → Article × Issues

namespace Site

open Html

/-- Fills `draft` from linked data, and then by the rule of the site for them. -/
def fillLinkedData (site : Site) (data : LinkedData) (draft : Article) : Article :=
  let link := data.link
  site.afterLinkedData data { draft with
    title := Text.trim data.headline
    category := Text.trim data.articleSection
    description := Text.trim data.description
    link := link
    published := data.published
    tags := data.keywords
    guid := match link with
      | some url => site.guid url
      | none => draft.guid }

/-- The first block in some scripts that mentions the type of articles, by `LinkedData.block?`. -/
def block? (site : Site) (scripts : List String) : Option String :=
  scripts.findSome? (LinkedData.block? site.linkedDataType)

/-- Fills `draft` from `block?`, mended by the site and decoded. After a failure the draft is as before. -/
def fromScripts (site : Site) (scripts : List String) (pageUrl : String) (draft : Article) :
    Article × Option Failure :=
  if site.publishesLinkedData then
    match site.block? scripts with
    | none => (draft, some (.of .linkedDataNotFound pageUrl "ParseJsonLD" none))
    | some block =>
      match LinkedData.decode (site.mend block) pageUrl with
      | .ok data => (site.fillLinkedData data draft, none)
      | .error failure => (draft, some failure)
  else (draft, none)

/-- Fills `draft` from the element `head` by `Head.collect` and the rule of the site for heads. -/
def fromHeadAt (site : Site) (head : Spot) (pageUrl : String) (draft : Article) :
    Article × Option Failure :=
  site.fromHead (Head.collect site.headTable head) pageUrl draft

end Site

end Gazette
