import Gazette.Failure.Basic
import Gazette.Fetch.Decoder
import Gazette.Fetch.Header

/-!
# Retrievers

How pages are fetched: with which headers, within what time, and with which decoders. A `Retriever` is made of
settings, one after the other (`Retriever.ofSettings`); later ones win, and the first one that cannot be taken
is the failure of the whole (`Retriever.Draft.set`).
-/

namespace Gazette

/-- How pages are fetched. -/
structure Retriever where
  /-- The headers of requests. -/
  headers : Headers
  /-- The time limit in nanoseconds. -/
  timeout : Nat
  /-- The decoders under the encodings that they undo, in lower case. -/
  decoders : Table ContentDecoder

/-- A setting of a retriever. -/
inductive Setting
  /-- A header. -/
  | header (name value : String)
  /-- A decoder for an encoding. -/
  | decoder (encoding : String) (decoder : ContentDecoder)
  /-- A time limit in nanoseconds. -/
  | timeout (nanoseconds : Nat)

namespace Setting

/-- How a browser on Linux names itself. -/
def linuxBrowser : String :=
  "Mozilla/5.0 (X11; Linux x86_64) AppleWebKit/537.36 (KHTML, like Gecko) " ++
    "Chrome/116.0.0.0 Safari/537.36"

/-- What a browser accepts as a page. -/
def browserAccept : String :=
  "text/html,application/xhtml+xml,application/xml;q=0.9,image/avif,image/webp,image/apng," ++
    "*/*;q=0.8"

/-- A second in nanoseconds. -/
def second : Nat := 1000000000

/-- The usual time limit, in nanoseconds. -/
def usualTimeout : Nat := 10 * second

/-- The header `user-agent`. -/
def userAgent (name : String) : Setting := .header "user-agent" name

/-- The header `accept`. -/
def accept (types : String) : Setting := .header "accept" types

/-- The header `accept-encoding`. -/
def acceptEncoding (encodings : String) : Setting := .header "accept-encoding" encodings

/-- Packed answers are accepted and unpacked by `ContentDecoder.gzip`. -/
def gzip : List Setting := [acceptEncoding "gzip", .decoder "gzip" .gzip]

/-- Requests like those of a browser, without packed answers. -/
def plainBrowser : List Setting := [userAgent linuxBrowser, accept browserAccept]

/-- Requests like those of a browser: `plainBrowser`, and packed answers. -/
def browser : List Setting := plainBrowser ++ gzip

end Setting

namespace Retriever

/-- A retriever as far as its settings were taken. -/
structure Draft where
  /-- The headers. -/
  headers : Headers := Table.empty
  /-- The decoders. -/
  decoders : Table ContentDecoder := Table.empty
  /-- The time limit. -/
  timeout : Option Nat := none
  /-- The first setting that could not be taken. -/
  failure : Option Failure := none

/-- The draft `d` with a failure, unless it has one. -/
def Draft.fail (d : Draft) (activity : String) (cause : Cause) : Draft :=
  { d with failure := d.failure.or (some (.refused activity (some cause))) }

/-- The draft `d` with one more setting, or with the failure of one that is refused. -/
def Draft.set (d : Draft) : Setting → Draft
  | .header name value =>
    match Headers.name? name with
    | none => d.fail "Header" (.badHeaderName name)
    | some key =>
      if Headers.isValue value then { d with headers := d.headers.insert key value }
      else d.fail "Header" (.badHeaderValue key)
  | .decoder encoding decoder =>
    { d with decoders := d.decoders.insert (Text.asciiLower (Text.trim encoding)) decoder }
  | .timeout nanoseconds =>
    if nanoseconds = 0 then d.fail "Timeout" .zeroTimeout
    else { d with timeout := some nanoseconds }

/-- The retriever of a draft, or its failure. -/
def ofDraft (d : Draft) : Except Failure Retriever :=
  match d.failure with
  | some failure => .error failure
  | none => .ok ⟨d.headers, d.timeout.getD Setting.usualTimeout, d.decoders⟩

/-- The retriever of some settings: `Draft.set` with one after the other, and `ofDraft`. -/
def ofSettings (settings : List Setting) : Except Failure Retriever :=
  ofDraft (settings.foldl Draft.set {})

/-- The settings of the usual retriever. -/
def usualSettings : List Setting := Setting.browser ++ [.timeout Setting.usualTimeout]

/-- The encodings that have a decoder, in order. -/
def encodings (r : Retriever) : List String := r.decoders.keys

/-- The decoder for an encoding, in lower case without white space around it. What has no decoder of its own stays
as it is. -/
def decoderFor (r : Retriever) (encoding : String) : ContentDecoder :=
  (r.decoders.get? (Text.asciiLower (Text.trim encoding))).getD .identity

end Retriever

end Gazette
