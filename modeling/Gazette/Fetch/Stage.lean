import Gazette.Fetch.Query
import Gazette.Fetch.Retriever

/-!
# Fetching

A page is fetched in four stages, `FetchStage.all`: its address is read (`Query.readUrl`), it is asked for
(`Retriever.ask`), the status of the answer is checked (`Query.checkStatus`), and the decoder of its body is
selected (`Retriever.selectDecoder`). `Retriever.fetch` goes through all of them; the first stage that fails
ends it.
-/

namespace Gazette

/-- A stage of fetching. -/
inductive FetchStage
  /-- The address is read. -/
  | readUrl
  /-- The page is asked for. -/
  | request
  /-- The status is checked. -/
  | checkStatus
  /-- The decoder is selected. -/
  | selectDecoder
deriving DecidableEq, Repr

namespace FetchStage

/-- The stages in their order. -/
def all : List FetchStage := [readUrl, request, checkStatus, selectDecoder]

/-- The name of a stage. -/
def name : FetchStage → String
  | readUrl => "parse-url"
  | request => "request"
  | checkStatus => "check-status"
  | selectDecoder => "select-decoder"

end FetchStage

namespace Query

/-- Reads the address off the trimmed text, and refuses one that is not of the web. -/
def readUrl (q : Query) : Query × Option Failure :=
  let raw := Text.trim q.rawUrl
  let refuse (cause : Cause) : Query × Option Failure :=
    (q, some (.of .invalidUrl raw "ParseUrl" (some cause)))
  if raw.isEmpty then refuse .emptyUrl
  else match Url.parse raw with
    | .error e => refuse (.unreadableUrl e)
    | .ok u =>
      if u.scheme = "http".toList ∨ u.scheme = "https".toList then
        ({ q with url := some u }, none)
      else refuse .unsupportedScheme

/-- Fails on every status but 200. -/
def checkStatus (q : Query) : Query × Option Failure :=
  match q.status with
  | some status =>
    (q, if status = 200 then none else some (.ofStatus q.rawUrl "CheckStatus" status))
  | none => (q, some (.of .transport q.rawUrl "CheckStatus" (some .noResponse)))

end Query

namespace Retriever

/-- The request for the page of a query, `Request.ofUrl` of its address, once that is read. -/
def request? (r : Retriever) (q : Query) : Option Request :=
  q.url.map fun u ↦ Request.ofUrl u r.headers

/-- Makes the request for the page of a query and keeps the answer. -/
def ask (r : Retriever) (transport : Transport) (q : Query) : Query × Option Failure :=
  match r.request? q with
  | none => (q, some (.of .invalidUrl q.rawUrl "Request" (some .urlNotParsed)))
  | some request =>
    let cause := Cause.notSent request.url.href
    match transport request with
    | .arrived response =>
      ({ q with status := some response.status, response := some response }, none)
    | .lost => (q, some (.of .transport q.rawUrl "Request" (some cause)))
    | .late => (q, some (.of .timeout q.rawUrl "Request" (some cause)))

/-- Selects the decoder of the body by the header `content-encoding` of the answer: `decoderFor`. -/
def selectDecoder (r : Retriever) (q : Query) : Query × Option Failure :=
  match q.response with
  | none => (q, some (.of .noHandler q.rawUrl "SelectDecoder" none))
  | some response =>
    let encoding := (response.header? "content-encoding").getD ""
    ({ q with decoder := some (r.decoderFor encoding) }, none)

/-- The stage of fetching that is given, on the page of `q`. -/
def step (r : Retriever) (transport : Transport) (q : Query) : FetchStage → Query × Option Failure
  | .readUrl => q.readUrl
  | .request => r.ask transport q
  | .checkStatus => q.checkStatus
  | .selectDecoder => r.selectDecoder q

/-- Some stages of fetching, up to the first that fails, which ends the query by `Query.fail`. -/
def steps (r : Retriever) (transport : Transport) : List FetchStage → Query → Query
  | [], q => q
  | stage :: stages, q =>
    match r.step transport q stage with
    | (q, none) => steps r transport stages q
    | (q, some failure) => q.fail failure

/-- All stages of fetching, `FetchStage.all`. -/
def fetch (r : Retriever) (transport : Transport) (q : Query) : Query :=
  r.steps transport FetchStage.all q

/-- The request that `fetch` makes, if the address can be read. -/
def fetchRequest? (r : Retriever) (q : Query) : Option Request :=
  match q.readUrl with
  | (q, none) => r.request? q
  | (_, some _) => none

end Retriever

end Gazette
