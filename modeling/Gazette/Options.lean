import Gazette.Bytes.Utf8
import Gazette.Client
import Gazette.Json.Printer
import Gazette.Json.Record

/-!
# Options

What can be configured of a client, and how it is read from a file: `Options.ofFile`. Every option has a usual
value.
-/

namespace Gazette

/-- The options of a client. -/
structure Options where
  /-- The name under which requests are made. -/
  userAgent : String := Setting.linuxBrowser
  /-- What is accepted as an answer. -/
  accept : String := Setting.browserAccept
  /-- Further headers. -/
  headers : Table String := Table.empty
  /-- The time limit in seconds. -/
  timeout : Nat := 10
  /-- Whether packed answers are accepted. -/
  gzip : Bool := true
  /-- How many pages may wait between two stages. -/
  capacity : Nat := usualCapacity

namespace Options

/-- Options as JSON. -/
def toJson (o : Options) : Json :=
  .object [
    ("user_agent", .string o.userAgent),
    ("accept", .string o.accept),
    ("headers", .object (o.headers.entries.map fun (name, value) ↦ (name, .string value))),
    ("timeout_secs", .ofNat o.timeout),
    ("gzip", .bool o.gzip),
    ("pipeline_capacity", .ofNat o.capacity)]

/-- The options as far as they were read. -/
structure Draft where
  /-- The name under which requests are made. -/
  userAgent : Option String := none
  /-- What is accepted as an answer. -/
  accept : Option String := none
  /-- Further headers. -/
  headers : Option (List (String × String)) := none
  /-- The time limit in seconds. -/
  timeout : Option Nat := none
  /-- Whether packed answers are accepted. -/
  gzip : Option Bool := none
  /-- How many pages may wait between two stages. -/
  capacity : Option Nat := none

/-- The options of a draft, with the usual values for what is missing. -/
def ofDraft (d : Draft) : Options :=
  let usual : Options := {}
  { userAgent := d.userAgent.getD usual.userAgent
    accept := d.accept.getD usual.accept
    headers := Table.ofList (d.headers.getD [])
    timeout := d.timeout.getD usual.timeout
    gzip := d.gzip.getD usual.gzip
    capacity := d.capacity.getD usual.capacity }

/-- The fields of options. -/
def fields : List (Json.Field Draft) := [
  .of "user_agent" Json.text Draft.userAgent (fun d x ↦ { d with userAgent := some x }) true,
  .of "accept" Json.text Draft.accept (fun d x ↦ { d with accept := some x }) true,
  .of "headers" (Json.members Json.text) Draft.headers (fun d x ↦ { d with headers := some x })
    true,
  .of "timeout_secs" (Json.natural "u64") Draft.timeout (fun d x ↦ { d with timeout := some x })
    true,
  .of "gzip" Json.truth Draft.gzip (fun d x ↦ { d with gzip := some x }) true,
  .of "pipeline_capacity" (Json.natural "usize") Draft.capacity
    (fun d x ↦ { d with capacity := some x }) true]

/-- The form of options. -/
def form : Json.Form Draft Options := ⟨"struct Options", fields, {}, fun d ↦ .ok (ofDraft d)⟩

/-- The options that a JSON text holds, by `form`. -/
def ofJsonText (s : String) : Except Json.Fault Options := form.parse s

/-- The text of a file. -/
def textOf (content : Except FileError (List UInt8)) : Except FileError String := do
  match Utf8.decode? (← content) with
  | some cs => return String.ofList cs
  | none => throw .notText

/-- The options that the file at `path` holds, given its content. -/
def ofFile (path : String) (content : Except FileError (List UInt8)) : Except Failure Options :=
  match textOf content with
  | .error e => .error (.refused "LoadOptions" (some (.unreadableFile path e)))
  | .ok text =>
    (ofJsonText text).mapError fun fault ↦
      .refused "LoadOptions" (some (.badOptions path text.toList fault))

/-- The settings of a retriever that the options stand for. -/
def settings (o : Options) : List Setting :=
  [.userAgent o.userAgent, .accept o.accept] ++
    (o.headers.entries.map fun (name, value) ↦ .header name value) ++
    (if o.gzip then Setting.gzip else []) ++ [.timeout (o.timeout * Setting.second)]

/-- The settings of a client that the options stand for, with all known sites. -/
def clientSettings (o : Options) : ClientSettings where
  settings := o.settings
  capacity := o.capacity

end Options

end Gazette
