import Gazette.Selector.Path

/-!
# What to read in a head

The fields that the head of a page may fill, `HeadField`, and tables that say with which selector each of them
is found: `HeadTable`, of which `HeadTable.standard` is the usual one.
-/

namespace Gazette

/-- A field of the head. -/
inductive HeadField
  /-- The address. -/
  | link
  /-- The description. -/
  | description
  /-- The language. -/
  | language
  /-- The author. -/
  | author
  /-- The category. -/
  | category
  /-- When the page was published. -/
  | published
  /-- When it was last changed. -/
  | modified
  /-- The keywords. -/
  | keywords
deriving DecidableEq, Repr

namespace HeadField

/-- All fields. -/
def all : List HeadField :=
  [link, description, language, author, category, published, modified, keywords]

/-- The attribute that holds the value of a field. -/
def holder : HeadField → String
  | link => "href"
  | _ => "content"

end HeadField

/-- A table gives some fields a selector. -/
def HeadTable : Type := HeadField → Option String

namespace HeadTable

/-- The table without selectors. -/
def empty : HeadTable := fun _ ↦ none

/-- The selector of a field. -/
def get? (t : HeadTable) (field : HeadField) : Option String := t field

/-- A table with a selector for a field. -/
def set (t : HeadTable) (field : HeadField) (css : String) : HeadTable :=
  fun f ↦ if f = field then some css else t f

/-- A table without a selector for a field. -/
def unset (t : HeadTable) (field : HeadField) : HeadTable := fun f ↦ if f = field then none else t f

/-- The table of a list of fields and selectors, the last one of each field. -/
def ofList (entries : List (HeadField × String)) : HeadTable :=
  entries.foldl (fun t (field, css) ↦ t.set field css) empty

@[simp] theorem get?_set (t : HeadTable) (field f : HeadField) (css : String) :
    (t.set field css).get? f = if f = field then some css else t.get? f := rfl

@[simp] theorem get?_unset (t : HeadTable) (field f : HeadField) :
    (t.unset field).get? f = if f = field then none else t.get? f := rfl

/-- The selector for `meta` elements with some attributes. -/
def metaWith (attributes : List (String × String)) : String :=
  Selector.Path.text [{ type := "meta", attributes := attributes }]

/-- The selector for the address that a page calls its own. -/
def canonical : String :=
  Selector.Path.text [{ type := "link", attributes := [("rel", "canonical")] }]

/-- The usual table. -/
def standard : HeadTable := ofList [
  (.link, canonical),
  (.description, metaWith [("name", "description"), ("itemprop", "description")]),
  (.language, metaWith [("http-equiv", "content-language")]),
  (.author, metaWith [("name", "author"), ("itemprop", "author")]),
  (.category, metaWith [("name", "section"), ("property", "article:section"),
    ("itemprop", "articleSection")]),
  (.published, metaWith [("name", "pubdate"), ("property", "article:published_time"),
    ("itemprop", "datePublished")]),
  (.modified, metaWith [("name", "lastmod"), ("property", "article:modified_time"),
    ("itemprop", "dateModified")]),
  (.keywords, metaWith [("itemprop", "keywords")])]

end HeadTable

end Gazette
