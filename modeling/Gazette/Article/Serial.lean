import Gazette.Article.Fingerprint
import Gazette.Json.Record
import Gazette.Json.Printer
import Gazette.Time.Timestamp
import Gazette.Url.Reader

/-!
# Articles as JSON

The form in which a record is written (`Article.toJson`) and read (`Article.ofJsonText`, by the fields of
`Article.form`), and the form in which it is handed to a store (`Article.StoreRequest`).
-/

namespace Gazette.Article

/-- A text, or `null`. -/
def textOrNull : Option String → Json
  | some s => .string s
  | none => .null

/-- A record as JSON. Authors, category, identifier and date are left out where there are none. -/
def toJson (a : Article) : Json :=
  .object <|
    [("title", .string a.title),
      ("link", textOrNull (a.link.map Url.href)),
      ("description", .string a.description),
      ("language", .string a.language)] ++
    (if a.authors.isEmpty then [] else [("author", .strings a.authors)]) ++
    (if a.category.isEmpty then [] else [("category", .string a.category)]) ++
    (if a.guid.isEmpty then [] else [("guid", .string a.guid)]) ++
    (match a.published with
      | some t => [("pubDate", .string (String.ofList t.toText))]
      | none => []) ++
    [("content", .strings a.content), ("tag", .strings a.tags), ("related_guid", .strings a.related)]

/-- The fields of a record as far as they were read. -/
structure Draft where
  /-- The title. -/
  title : Option String := none
  /-- The address. -/
  link : Option (Option Url) := none
  /-- The description. -/
  description : Option String := none
  /-- The language. -/
  language : Option String := none
  /-- The authors. -/
  authors : Option (List String) := none
  /-- The category. -/
  category : Option String := none
  /-- The identifier. -/
  guid : Option String := none
  /-- When it was published. -/
  published : Option (Option Time.Instant) := none
  /-- The paragraphs. -/
  content : Option (List String) := none
  /-- The tags. -/
  tags : Option (List String) := none
  /-- The related articles. -/
  related : Option (List String) := none

/-- The address in a string, by `Url.parse`. -/
def urlOf (s : String) : Except Json.Cause Url :=
  (Url.parse s).mapError fun e ↦ .content (e.message ++ ": " ++ Text.quoted s)

/-- The instant in a string, in the loose form of `Instant.ofLooseTimestamp`. -/
def instantOf (s : String) : Except Json.Cause Time.Instant :=
  (Time.Instant.ofLooseTimestamp s).mapError fun e ↦ .content e.message

/-- The fields of a record, each with its reader. -/
def fields : List (Json.Field Draft) := [
  .of "title" Json.text Draft.title (fun d x ↦ { d with title := some x }) false,
  .of "link" (Json.optional (Json.stringAs "a string representing an URL" urlOf)) Draft.link
    (fun d x ↦ { d with link := some x }) false,
  .of "description" Json.text Draft.description (fun d x ↦ { d with description := some x }) false,
  .of "language" Json.text Draft.language (fun d x ↦ { d with language := some x }) false,
  .of "author" (Json.list Json.text) Draft.authors (fun d x ↦ { d with authors := some x }) true,
  .of "category" Json.text Draft.category (fun d x ↦ { d with category := some x }) true,
  .of "guid" Json.text Draft.guid (fun d x ↦ { d with guid := some x }) true,
  .of "pubDate"
    (Json.optional (Json.stringAs "an RFC 3339 formatted date and time string" instantOf))
    Draft.published (fun d x ↦ { d with published := some x }) true,
  .of "content" (Json.list Json.text) Draft.content (fun d x ↦ { d with content := some x }) false,
  .of "tag" (Json.list Json.text) Draft.tags (fun d x ↦ { d with tags := some x }) false,
  .of "related_guid" (Json.list Json.text) Draft.related (fun d x ↦ { d with related := some x })
    false]

/-- A field that has to be there; without it the fault is `Json.Cause.missing`. -/
def required {α : Type} (field : String) : Option α → Except Json.Cause α
  | some x => .ok x
  | none => .error (.missing field)

/-- The record of a draft. Fields that may be missing have their defaults. -/
def ofDraft (d : Draft) : Except Json.Cause Article := do
  return {
    title := ← required "title" d.title
    link := d.link.join
    description := ← required "description" d.description
    language := ← required "language" d.language
    authors := d.authors.getD []
    category := d.category.getD ""
    guid := d.guid.getD ""
    published := d.published.join
    content := ← required "content" d.content
    tags := ← required "tag" d.tags
    related := ← required "related_guid" d.related }

/-- `fields` and `ofDraft` put together. -/
def form : Json.Form Draft Article := ⟨"struct News", fields, {}, ofDraft⟩

/-- The record that a JSON text holds, by `form`. -/
def ofJsonText (s : String) : Except Json.Fault Article := form.parse s

/-- What a store needs to keep a record. -/
structure StoreRequest where
  /-- The fingerprint. -/
  hash : String
  /-- The identifier. -/
  guid : String
  /-- The authors. -/
  authors : List String
  /-- The title. -/
  title : String
  /-- The address, empty if there is none. -/
  link : String
  /-- The description. -/
  description : String
  /-- The language. -/
  language : String
  /-- The paragraphs. -/
  content : List String
  /-- The category. -/
  category : String
  /-- The host of the address, empty if there is none. -/
  source : String
  /-- The related articles. -/
  related : List String
  /-- When it was published. -/
  published : Option Time.Instant
deriving DecidableEq, Repr

/-- What a store needs to keep the record `a`, its `contentHash` included. -/
def storeRequest (a : Article) : StoreRequest where
  hash := a.contentHash
  guid := a.guid
  authors := a.authors
  title := a.title
  link := a.linkText
  description := a.description
  language := a.language
  content := a.content
  category := a.category
  source := a.source.getD ""
  related := a.related
  published := a.published

/-- A date as JSON. -/
def instantJson (t : Option Time.Instant) : Json :=
  textOrNull (t.map fun t ↦ String.ofList t.toText)

/-- A request to a store as JSON, with nothing left out. -/
def StoreRequest.toJson (r : StoreRequest) : Json :=
  .object [
    ("md5_hash", .string r.hash),
    ("guid", .string r.guid),
    ("author", .strings r.authors),
    ("title", .string r.title),
    ("link", .string r.link),
    ("description", .string r.description),
    ("language", .string r.language),
    ("content", .strings r.content),
    ("category", .string r.category),
    ("source", .string r.source),
    ("related_guid", .strings r.related),
    ("published_at", instantJson r.published)]

end Gazette.Article
