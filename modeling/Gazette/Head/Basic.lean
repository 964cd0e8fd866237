import Gazette.Article.Basic
import Gazette.Failure.Basic
import Gazette.Head.Table
import Gazette.Selector.Find
import Gazette.Text.Keywords
import Gazette.Time.Timestamp
import Gazette.Url.Reader

/-!
# Heads

What the head of a page says of the page, as text: `Head`. A field found in several places holds all of its
values, each once, with commas between them (`Head.collect`). From such a text `Head.fill` fills the draft of an
article; only an address that cannot be read is a failure (`Head.link?`).
-/

namespace Gazette

/-- What the head of a page says. -/
structure Head where
  /-- The title. -/
  title : String := ""
  /-- The address. -/
  link : String := ""
  /-- The description. -/
  description : String := ""
  /-- The language. -/
  language : String := ""
  /-- The author. -/
  author : String := ""
  /-- The category. -/
  category : String := ""
  /-- When the page was published. -/
  published : String := ""
  /-- When it was last changed. -/
  modified : String := ""
  /-- The keywords. -/
  keywords : String := ""
deriving DecidableEq, Repr

namespace Head

open Html

/-- The values of `field` below `head`, found by its selector in `table`, each once, in the order in which they
stand. -/
def valuesOf (table : HeadTable) (head : Spot) (field : HeadField) : List String :=
  match table.get? field with
  | some css => ((head.all css).filterMap (·.attribute? field.holder)).eraseDups
  | none => []

/-- What a head says: for each field its `valuesOf`, with commas between them. -/
def collect (table : HeadTable) (head : Spot) : Head :=
  let value (field : HeadField) : String := Text.joinWith "," (valuesOf table head field)
  { title := ((head.first? "title").map Spot.text).getD ""
    link := value .link
    description := value .description
    language := value .language
    author := value .author
    category := value .category
    published := value .published
    modified := value .modified
    keywords := value .keywords }

/-- The text of the address, up to the first comma, trimmed. -/
def linkText (h : Head) : String := Text.trim (Text.headPiece "," h.link)

/-- The address, resolved against `pageUrl` if that can be read, and else alone. -/
def link? (h : Head) (pageUrl : String) : Except Failure (Option Url) :=
  let text := h.linkText
  if text.isEmpty then .ok none
  else match (Url.parse pageUrl) >>= fun base ↦ base.join text with
    | .ok url => .ok (some url)
    | .error _ =>
      match Url.parse text with
      | .ok url => .ok (some url)
      | .error e => .error (.of .extract pageUrl "ParseMeta" (some (.badLink text e)))

/-- When the page was published, where `Head.published` is a timestamp. -/
def instant? (h : Head) : Option Time.Instant := Time.Instant.ofTimestamp? h.published

/-- The offset of Taipei, which local times leave out. -/
def taipeiOffset : String := "+08:00"

/-- When the page was published, where the time of day may come without its offset: `Head.published` with `offset`
behind it, or else as it stands. -/
def instantWithOffset? (h : Head) (offset : String) : Option Time.Instant :=
  let text := Text.trim h.published
  if text.isEmpty then none
  else (Time.Instant.ofTimestamp? (text ++ offset)).or h.instant?

/-- The keywords, one by one, by `Text.keywords`. -/
def tags (h : Head) : List String := Text.keywords h.keywords

/-- Fills `draft` with all but the title. `guid` gives the identifier of an address. An address that cannot be
read leaves `link` and `guid` of the draft as they are. -/
def fill (h : Head) (pageUrl : String) (guid : Url → String) (draft : Article) :
    Article × Option Failure :=
  let draft := { draft with
    description := Text.trim h.description
    category := Text.trim h.category
    language := Text.trim h.language
    tags := h.tags
    published := h.instant? }
  match h.link? pageUrl with
  | .ok (some url) => ({ draft with link := some url, guid := guid url }, none)
  | .ok none => ({ draft with link := none }, none)
  | .error failure => (draft, some failure)

end Head

end Gazette
