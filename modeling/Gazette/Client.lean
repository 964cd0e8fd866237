import Gazette.Fetch.Pipeline

/-!
# Clients

A `Client` puts together how pages are fetched and which sites it knows. It makes the record of one page
(`Client.parse`), of a page that was fetched before (`Client.extract`), or of many (`Client.parseAll`).
-/

namespace Gazette

/-- A client. -/
structure Client where
  /-- How pages are fetched. -/
  retriever : Retriever
  /-- The sites. -/
  registry : Registry
  /-- How many pages may wait between two stages, at least one. -/
  capacity : Nat

/-- The usual number of pages that may wait between two stages. -/
def usualCapacity : Nat := 16

namespace Client

/-- The address of a page: `Url.parse` of the trimmed text. -/
def pageUrl (activity url : String) : Except Failure Url :=
  (Url.parse (Text.trim url)).mapError fun e ↦
    .of .invalidUrl url activity (some (.malformedUrl e))

/-- The identifier of the article at an address, by `Registry.guid`. -/
def guid (c : Client) (url : String) : Except Failure String :=
  (pageUrl "DeriveGuid" url).map c.registry.guid

/-- The record of the page `html` that was fetched before from `url`, by `Registry.extract`. -/
def extract (c : Client) (html url : String) : Except Failure Extraction := do
  c.registry.extract (← pageUrl "ParseHtml" url) html

/-- Fetches a page by `Retriever.fetch` and makes its record by `Registry.complete`. Whether a site claims its
host is asked before. -/
def parse (c : Client) (transport : Transport) (url : String) : Except Failure Extraction := do
  let host := Registry.hostOf (← pageUrl "Parse" url)
  if !c.registry.supports host then throw (.unclaimed url host)
  let q := c.retriever.fetch transport { id := 0, rawUrl := url }
  match q.failure with
  | some failure => throw failure
  | none =>
    match c.registry.complete q with
    | (_, some failure) => throw failure
    | (q, none) =>
      match q.article with
      | some a => return ⟨a, q.issues⟩
      | none => throw (.of .extract url "Parse" (some .noRecord))

/-- The requests that `parse` makes. -/
def parseRequests (c : Client) (url : String) : List Request :=
  match pageUrl "Parse" url with
  | .ok u =>
    if c.registry.supports (Registry.hostOf u) then
      (c.retriever.fetchRequest? { id := 0, rawUrl := url }).toList
    else []
  | .error _ => []

/-- The pipeline of a client. -/
def pipeline (c : Client) : Pipeline := ⟨c.retriever, some c.registry⟩

/-- Fetches many pages and makes their records, by `Pipeline.run` of the `pipeline`. -/
def parseAll (c : Client) (transport : Transport) (urls : List String) : Outcome :=
  c.pipeline.run transport (Pipeline.queriesFor urls)

end Client

/-- What a client is made of. -/
structure ClientSettings where
  /-- How pages are fetched. -/
  settings : List Setting := Retriever.usualSettings
  /-- The sites, unless these are all that are known. -/
  registry : Option Registry := none
  /-- How many pages may wait between two stages. -/
  capacity : Nat := usualCapacity

/-- The settings `s` with one more for the retriever. -/
def ClientSettings.set (s : ClientSettings) (setting : Setting) : ClientSettings :=
  { s with settings := s.settings ++ [setting] }

/-- The client of some settings, with a capacity of 1 at least. -/
def Client.ofSettings (s : ClientSettings) : Except Failure Client := do
  return ⟨← Retriever.ofSettings s.settings, s.registry.getD .known, max s.capacity 1⟩

end Gazette
