import Gazette.Failure.Basic
import Gazette.Json.Record
import Gazette.Text.Keywords
import Gazette.Time.Timestamp
import Gazette.Url.Reader

/-!
# Linked data

The part of a linked-data object that describes an article: `LinkedData`. Publishers write a single value alone,
in a list, or as `null`; all three are taken (`oneOrMany`, `oneString?`). A value of another type makes the
whole object unusable: `LinkedData.ofJson` fails.
-/

namespace Gazette

/-- Something that linked data refer to, such as an author or a topic. -/
structure Thing where
  /-- Its identifier. -/
  id : String := ""
  /-- Its type. -/
  kind : String := ""
  /-- Its name. -/
  name : String := ""
  /-- Another name. -/
  alternateName : String := ""
  /-- Addresses of the same thing elsewhere. -/
  sameAs : List String := []
deriving DecidableEq, Repr

/-- Linked data of an article. -/
structure LinkedData where
  /-- The type. -/
  kind : String := ""
  /-- The headline. -/
  headline : String := ""
  /-- The description. -/
  description : String := ""
  /-- The address. -/
  url : String := ""
  /-- The section. -/
  articleSection : String := ""
  /-- The authors. -/
  author : List Thing := []
  /-- The topics. -/
  about : List Thing := []
  /-- The keywords. -/
  keywords : List String := []
  /-- When it was published. -/
  datePublished : String := ""
  /-- When it was last changed. -/
  dateModified : String := ""
deriving DecidableEq, Repr

namespace LinkedData

/-! ## Values alone or in lists -/

/-- The values of a list of which `item` takes all members, of a value that `item` takes, or none of
`null`, tried in this order. -/
def oneOrMany {α : Type} (item : Json → Option α) (v : Json) : Option (List α) :=
  let one := match item v with
    | some x => some [x]
    | none =>
      match v with
      | .null => some []
      | _ => none
  match v with
  | .array items => (items.mapM item).orElse fun () ↦ one
  | _ => one

/-- A string. -/
def string? : Json → Option String
  | .string s => some s
  | _ => none

/-- A string or `null`. -/
def stringOrNull? : Json → Option (Option String)
  | .null => some none
  | .string s => some (some s)
  | _ => none

/-- The first string of a value; empty if there is none. -/
def oneString? (v : Json) : Option String :=
  (oneOrMany stringOrNull? v).map fun values ↦ (values.filterMap id).headD ""

/-! ## Things -/

/-- The thing `t` with one more member of an object. -/
def putThing (t : Thing) (key : String) (v : Json) : Option Thing :=
  if key = "@id" then (string? v).map fun s ↦ { t with id := s }
  else if key = "@type" then (oneString? v).map fun s ↦ { t with kind := s }
  else if key = "name" then (oneString? v).map fun s ↦ { t with name := s }
  else if key = "alternateName" then (oneString? v).map fun s ↦ { t with alternateName := s }
  else if key = "sameAs" then (oneOrMany string? v).map fun l ↦ { t with sameAs := l }
  else some t

/-- The keys of a thing, in the order that a list gives their values. -/
def thingKeys : List String := ["@id", "@type", "name", "alternateName", "sameAs"]

/-- A thing from an object, by `putThing`, or from a list of values under `thingKeys`. -/
def thing? : Json → Option Thing
  | .object members => members.foldlM (fun t (key, v) ↦ putThing t key v) {}
  | .array items =>
    if thingKeys.length < items.length then none
    else (thingKeys.zip items).foldlM (fun t (key, v) ↦ putThing t key v) {}
  | _ => none

/-! ## Articles -/

/-- The keywords of a string with commas, of a list of such strings, or none of `null`. -/
def keywordsOf : Json → Except Json.Cause (List String)
  | .null => .ok []
  | .string s => .ok (Text.keywords s)
  | .array items => do
    let lists ← items.mapM fun
      | .string s => .ok (Text.keywords s)
      | v => .error (Json.Cause.wrongType (Json.kindText v) "a string")
    return lists.flatten
  | v => .error (.wrongType (Json.kindText v) "a comma separated string or an array of strings")

/-- A value of one of the accepted types, or the fault of none. -/
def accepted {α : Type} : Option α → Except Json.Cause α
  | some x => .ok x
  | none => .error .noVariant

/-- The linked data `d` with one more member of an object. A key that is not among `keys` changes nothing. -/
def put (d : LinkedData) (key : String) (v : Json) : Except Json.Cause LinkedData :=
  if key = "@type" then do return { d with kind := ← accepted (oneString? v) }
  else if key = "headline" then do return { d with headline := ← accepted (oneString? v) }
  else if key = "description" then do return { d with description := ← accepted (oneString? v) }
  else if key = "url" then do return { d with url := ← accepted (oneString? v) }
  else if key = "articleSection" then do return { d with articleSection := ← accepted (oneString? v) }
  else if key = "author" then do return { d with author := ← accepted (oneOrMany thing? v) }
  else if key = "about" then do return { d with about := ← accepted (oneOrMany thing? v) }
  else if key = "keywords" then do return { d with keywords := ← keywordsOf v }
  else if key = "datePublished" then do return { d with datePublished := ← accepted (oneString? v) }
  else if key = "dateModified" then do return { d with dateModified := ← accepted (oneString? v) }
  else return d

/-- The keys of linked data, in the order that a list gives their values. -/
def keys : List String :=
  ["@type", "headline", "description", "url", "articleSection", "author", "about", "keywords",
    "datePublished", "dateModified"]

/-- Linked data from an object, by `put`, or from a list of values under `keys`. -/
def ofJson : Json → Except Json.Cause LinkedData
  | .object members => members.foldlM (fun d (key, v) ↦ d.put key v) {}
  | .array items => do
    let d ← (keys.zip items).foldlM (fun d (key, v) ↦ put d key v) {}
    if keys.length < items.length then
      throw (.wrongLength items.length "fewer elements in array")
    return d
  | v => .error (.wrongType (Json.kindText v) "struct LinkedData")

/-- Linked data from a JSON text: `ofJson` of what `Json.parseChars` reads. -/
def parse (cs : List Char) : Except Json.Fault LinkedData := do
  let v ← Json.parseChars cs
  (ofJson v).mapError Json.Fault.unplaced

/-- The linked data of a block found on the page at `pageUrl`: `parse` with `FailureKind.linkedDataDecode`. -/
def decode (block pageUrl : String) : Except Failure LinkedData :=
  (parse block.toList).mapError fun fault ↦
    .of .linkedDataDecode pageUrl "ParseJsonLD" (some (.badJson block.toList fault))

/-- The address, where `Url.parse` can read it. -/
def link (d : LinkedData) : Option Url := (Url.parse (Text.trim d.url)).toOption

/-- When the article was published. -/
def published (d : LinkedData) : Option Time.Instant := Time.Instant.ofTimestamp? d.datePublished

/-- When the article was last changed. -/
def modified (d : LinkedData) : Option Time.Instant := Time.Instant.ofTimestamp? d.dateModified

/-- The names of the authors that are not blank. -/
def authorNames (d : LinkedData) : List String :=
  (d.author.map fun a ↦ Text.trim a.name).filter fun name ↦ !name.isEmpty

end LinkedData

end Gazette
