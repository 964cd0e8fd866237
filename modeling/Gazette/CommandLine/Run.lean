import Gazette.Article.Display
import Gazette.Article.Serial
import Gazette.CommandLine.Arguments
import Gazette.Options

/-!
# Runs

What a run of the command line writes and reports: the `Report` of `Report.ofWords` in some `Surroundings`.
Arguments are looked at first (`Arguments.misuse?`), then the options of the client (`Arguments.client`); of
what is asked for, domains come before an identifier and that before records. Issues are reported and do not
fail a run; failures are reported and do, after the records that were made are written.
-/

namespace Gazette

/-- What a run leaves behind. -/
structure Report where
  /-- The exit code. -/
  code : Nat := 0
  /-- What is written. -/
  out : String := ""
  /-- What is reported. -/
  err : String := ""
deriving DecidableEq, Repr

/-- What a run finds around it. -/
structure Surroundings where
  /-- The contents of files. -/
  file : String → Except FileError (List UInt8)
  /-- What answers requests. -/
  transport : Transport

/-- Why arguments that can be read make no sense together. -/
inductive Misuse
  /-- A page from a file without its address. -/
  | addressMissing
  /-- A page from a file, and other pages. -/
  | twoSources
  /-- Nothing to do. -/
  | nothingWanted
deriving DecidableEq, Repr

/-- The wording of a misuse. -/
def Misuse.message : Misuse → String
  | addressMissing => "--url is required when using --html"
  | twoSources => "cannot use both --html and positional URLs"
  | nothingWanted => "at least one URL is required, or use --html with --url"

namespace Arguments

/-- What is wrong with arguments. -/
def misuse? (a : Arguments) : Option Misuse :=
  if a.html.isSome && a.url.isNone then some .addressMissing
  else if a.html.isSome && !a.urls.isEmpty then some .twoSources
  else if a.html.isNone && a.urls.isEmpty && a.guid.isNone && !a.isSet .listDomains then
    some .nothingWanted
  else none

/-- The files that are read. -/
def paths (a : Arguments) : List String := a.config.toList ++ a.html.toList

/-- The options of the client: those of the file, by `Options.ofFile`, unless the arguments have their own. -/
def options (a : Arguments) (around : Surroundings) : Except Failure Options := do
  let o ← match a.config with
    | some path => Options.ofFile path (around.file path)
    | none => .ok {}
  return { o with
    timeout := a.timeout.getD o.timeout
    capacity := a.capacity.getD o.capacity }

/-- The client of `options`. -/
def client (a : Arguments) (around : Surroundings) : Except Failure Client := do
  Client.ofSettings (← a.options around).clientSettings

/-- Records as they are written: as requests to a store, as JSON, or by `Article.display`. -/
def render (a : Arguments) (records : List Article) : String :=
  if a.isSet .createRequest then (Json.array (records.map fun r ↦ r.storeRequest.toJson)).pretty
  else if a.isSet .json then (Json.array (records.map Article.toJson)).pretty
  else Text.joinWith "\n" (records.map Article.display)

end Arguments

namespace Report

/-- A line. -/
def line (s : String) : String := s ++ "\n"

/-- The report of a failure, with the exit code 1. -/
def failed (message : String) : Report := { code := 1, err := line message }

/-- The report of some records, unless there are none. -/
def written (a : Arguments) (records : List Article) : String :=
  if records.isEmpty then "" else line (a.render records)

/-- How the program is used. -/
def usage : String := line "Usage: newsparser [OPTIONS] [URLS]..."

/-- An account of the arguments. -/
def help : String :=
  Text.concat (([
    "Fetch news articles and extract structured records",
    "",
    "Usage: newsparser [OPTIONS] [URLS]...",
    "",
    "Arguments:",
    "  [URLS]...  URLs to fetch (pipeline mode)",
    "",
    "Options:",
    "      --html <HTML>          HTML file to extract (requires --url)",
    "      --url <URL>            Page URL the HTML file was fetched from (required with --html)",
    "      --guid <URL>           Print the GUID of a URL and exit",
    "      --list-domains         Print the supported domains and exit",
    "      --json                 Output records as JSON",
    "      --create-request       Output storage-creation requests (JSON) instead of records",
    "      --config <CONFIG>      JSON options file",
    "      --timeout <TIMEOUT>    Request timeout in seconds",
    "      --capacity <CAPACITY>  Pipeline channel capacity",
    "  -v, --verbose              Debug logging",
    "  -h, --help                 Print help"] : List String).map line)

/-- The report on a line of words that cannot be read, with the exit code 2. -/
def refused (fault : ArgumentFault) : Report where
  code := 2
  err := line ("error: " ++ fault.message) ++ line "" ++ usage ++ line "" ++
    line "For more information, try '--help'."

/-- The report on the record of a page in a file, by `Client.extract`. -/
def ofSavedPage (a : Arguments) (around : Surroundings) (client : Client) (path url : String) :
    Report :=
  match Options.textOf (around.file path) with
  | .error e => failed ("error reading file " ++ Text.quoted path ++ ": " ++ e.message)
  | .ok html =>
    match client.extract html url with
    | .error failure => failed ("error parsing HTML: " ++ failure.message)
    | .ok e =>
      { out := written a [e.article]
        err := Text.concat (e.issues.entries.map fun (key, issue) ↦
          line ("warning: " ++ key ++ ": " ++ issue.message)) }

/-- The report on the records of fetched pages, by `Client.parseAll`. -/
def ofPages (a : Arguments) (around : Surroundings) (client : Client) : Report :=
  let outcome := client.parseAll around.transport a.urls
  { code := if outcome.failures.isEmpty then 0 else 1
    out := written a (outcome.queries.filterMap Query.article)
    err := Text.concat (outcome.failures.map fun failure ↦ line ("error: " ++ failure.message)) }

/-- The report of a client on what arguments ask for. -/
def ofClient (a : Arguments) (around : Surroundings) (client : Client) : Report :=
  if a.isSet .listDomains then { out := Text.concat (client.registry.domains.map line) }
  else
    match a.guid with
    | some url =>
      match client.guid url with
      | .ok guid => { out := line guid }
      | .error failure => failed ("error: " ++ failure.message)
    | none =>
      match a.html, a.url with
      | some path, some url => ofSavedPage a around client path url
      | _, _ => ofPages a around client

/-- The report on what arguments ask for, by `ofClient` unless the arguments or the options are at fault. -/
def ofArguments (a : Arguments) (around : Surroundings) : Report :=
  match a.misuse? with
  | some misuse => failed ("error: " ++ misuse.message)
  | none =>
    match a.client around with
    | .error failure => failed ("error: " ++ failure.message)
    | .ok client => ofClient a around client

/-- The report on a line of words: `ofArguments` of `Arguments.ofWords`. -/
def ofWords (words : List String) (around : Surroundings) : Report :=
  match Arguments.ofWords words with
  | .error fault => refused fault
  | .ok a => if a.help then { out := help } else ofArguments a around

end Report

end Gazette
