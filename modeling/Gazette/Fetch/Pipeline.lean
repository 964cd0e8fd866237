import Gazette.Fetch.Stage
import Gazette.Site.Registry

/-!
# Pipelines

Many pages are fetched, and their records made, in a row of stages. Each page goes through the stages for
itself: what comes of it depends on it alone. The first stage that fails on it is reported with its number.

## Main definitions

- `Stage`: the stages of fetching (`FetchStage`), and behind them `Stage.extract`.
- `Registry.complete`: the last stage, which reads the body of a page and makes its record.
- `Pipeline.apply`, `Pipeline.process`: one stage, and all of them in order, on one page.
- `Pipeline.run`: all stages on many pages, one page after the other. `Gazette.Proofs.Pipeline.Network` has the
  stages working at the same time, with channels between them.
- `Pipeline.runUnder`: the same under a token that may be cancelled beforehand.
-/

namespace Gazette

namespace Registry

/-- Reads the body of a fetched page and makes its record. Whether a site claims the address is asked before
the body is read. -/
def complete (r : Registry) (q : Query) : Query × Option Failure :=
  match q.url with
  | none => (q, some (.of .invalidUrl q.rawUrl "Extract" (some .urlNotParsed)))
  | some u =>
    match r.siteOf u with
    | .error failure => (q, some failure)
    | .ok site =>
      match q.content with
      | (q, .error failure) => (q, some failure)
      | (q, .ok html) =>
        let e := site.extract html u
        ({ q with issues := q.issues.extend e.issues, article := some e.article }, none)

end Registry

/-- A stage of a pipeline. -/
inductive Stage
  /-- A stage of fetching. -/
  | fetch (stage : FetchStage)
  /-- The record is made. -/
  | extract
deriving DecidableEq, Repr

/-- The name of a stage. -/
def Stage.name : Stage → String
  | fetch stage => stage.name
  | extract => "extract"

/-- How many pages are processed: fetched by `retriever`, and their records made by `registry`, if there is
one. -/
structure Pipeline where
  /-- How they are fetched. -/
  retriever : Retriever
  /-- Who makes their records, if that is to be done. -/
  registry : Option Registry := none

/-- What comes of many pages. -/
structure Outcome where
  /-- The pages that went through all stages. -/
  queries : List Query
  /-- The failures of the others. -/
  failures : List StageFailure

/-- The number of pages of which something came. -/
def Outcome.size (o : Outcome) : Nat := o.queries.length + o.failures.length

namespace Pipeline

/-- The stages of `p`: those of `FetchStage.all`, and `Stage.extract` if there is a registry. -/
def stages (p : Pipeline) : List Stage :=
  FetchStage.all.map .fetch ++ if p.registry.isSome then [.extract] else []

/-- One stage on the page of `q`: what it leaves of the page, and its failure. -/
def apply (p : Pipeline) (transport : Transport) (q : Query) : Stage → Query × Option Failure
  | .fetch stage => p.retriever.step transport q stage
  | .extract =>
    match p.registry with
    | some registry => registry.complete q
    | none => (q, none)

/-- The given stages on the page of `q`, the first of which has the given number. The first failure ends it. -/
def processFrom (p : Pipeline) (transport : Transport) :
    Nat → List Stage → Query → Except StageFailure Query
  | _, [], q => .ok q
  | number, stage :: stages, q =>
    match p.apply transport q stage with
    | (q, none) => processFrom p transport (number + 1) stages q
    | (_, some failure) => .error ⟨q.id, number, stage.name, failure⟩

/-- All of `stages` on the page of `q`, numbered from 1. -/
def process (p : Pipeline) (transport : Transport) (q : Query) : Except StageFailure Query :=
  p.processFrom transport 1 p.stages q

/-- `process` on each of many pages, with the results split in two. -/
def run (p : Pipeline) (transport : Transport) (queries : List Query) : Outcome :=
  let results := queries.map (p.process transport)
  ⟨results.filterMap fun r ↦ r.toOption,
    results.filterMap fun
      | .error failure => some failure
      | .ok _ => none⟩

/-- The requests for many pages: one for each whose address can be read. -/
def requests (p : Pipeline) (queries : List Query) : List Request :=
  queries.filterMap p.retriever.fetchRequest?

/-- What comes of many pages under a token that is cancelled beforehand, or not at all. The feeder and the
workers look at the token before anything else, so a cancelled one lets no page into the first stage. -/
def runUnder (p : Pipeline) (cancelled : Bool) (transport : Transport) (queries : List Query) :
    Outcome :=
  if cancelled then ⟨[], []⟩ else p.run transport queries

/-- The requests that `runUnder` makes. -/
def requestsUnder (p : Pipeline) (cancelled : Bool) (queries : List Query) : List Request :=
  if cancelled then [] else p.requests queries

/-- The queries for some addresses, numbered from 1. -/
def queriesFor (urls : List String) : List Query :=
  urls.zipIdx.map fun (url, n) ↦ { id := n + 1, rawUrl := url }

end Pipeline

end Gazette
