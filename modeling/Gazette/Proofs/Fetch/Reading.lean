import Gazette.Proofs.Fetch.Frame

/-!
# From an address to a text

`Retriever.fetch` leaves a new query in one of two states. Either its page has arrived and can be read
(`Query.Fetched`), which is so exactly if its text is an address of the web and the transport answers with
status 200 (`Retriever.Brings`), or a failure has ended its way, and nothing is left to read (`Query.Ended`).

The body of a page that has arrived is given out once, whatever comes of it: `Query.content` takes the answer
away before anything is done with it, and without an answer, or without a decoder, it changes nothing, so it
fails in one way however often it is tried. `Query.readings` is what any number of readings gives.
-/

namespace Gazette

namespace Query

variable (q : Query)

/-- `q.LeadsTo u`: the text of the query is the address `u` of the web. -/
structure LeadsTo (u : Url) : Prop where
  /-- White space around the address does not matter. -/
  parse : Url.parse (Text.trim q.rawUrl) = .ok u
  /-- It is one that can be fetched. -/
  scheme : u.scheme = "http".toList ∨ u.scheme = "https".toList

/-- A query whose page has arrived: it has an answer and a decoder, and no failure. -/
structure Fetched : Prop where
  /-- Nothing went wrong. -/
  failure : q.failure = none
  /-- There is no record yet. -/
  article : q.article = none
  /-- The address is the one that the text stands for. -/
  url : ∃ u, q.LeadsTo u ∧ q.url = some u
  /-- The status is the good one. -/
  status : q.status = some 200
  /-- The answer is there. -/
  response : q.response.isSome
  /-- What it is to be decoded with is known. -/
  decoder : q.decoder.isSome

/-- A query that ended before its page could be read: it has a failure, and neither answer nor decoder. -/
structure Ended : Prop where
  /-- Something went wrong. -/
  failure : q.failure.isSome
  /-- There is no record. -/
  article : q.article = none
  /-- The answer was given up, if there was one. -/
  response : q.response = none
  /-- No decoder was selected. -/
  decoder : q.decoder = none

/-! ## Stages -/

/-- `Query.readUrl` fills in the address that the text `LeadsTo`, or it fails and leaves the query as it is. -/
theorem readUrl_cases :
    ((∀ u, ¬ q.LeadsTo u) ∧ ∃ failure, q.readUrl = (q, some failure)) ∨
      ∃ u, q.LeadsTo u ∧ q.readUrl = ({ q with url := some u }, none) := by
  unfold readUrl
  dsimp only
  split
  next empty =>
    refine .inl ⟨fun u leads ↦ ?_, _, rfl⟩
    have unread : (Url.parse "").toOption = none := by decide
    have read := leads.parse
    rw [String.isEmpty_iff.1 empty] at read
    rw [read] at unread
    cases unread
  next =>
    split
    next e unread =>
      refine .inl ⟨fun u leads ↦ ?_, _, rfl⟩
      cases unread.symm.trans leads.parse
    next u read =>
      split
      next web => exact .inr ⟨u, ⟨read, web⟩, rfl⟩
      next other =>
        refine .inl ⟨fun u' leads ↦ ?_, _, rfl⟩
        cases read.symm.trans leads.parse
        exact other leads.scheme

variable {q} in
/-- `Query.checkStatus` lets the status 200 pass and fails on others; it leaves the query as it is. -/
theorem checkStatus_cases {status : Nat} (answered : q.status = some status) :
    (status ≠ 200 ∧ ∃ failure, q.checkStatus = (q, some failure)) ∨ (status = 200 ∧ q.checkStatus = (q, none)) := by
  unfold checkStatus
  rw [answered]
  dsimp only
  by_cases good : status = 200
  · exact .inr ⟨good, by rw [if_pos good]⟩
  · exact .inl ⟨good, _, by rw [if_neg good]⟩

end Query

namespace Retriever

variable (r : Retriever) (transport : Transport) (q : Query)

/-- `r.Brings transport q u response`: the text of `q` leads to `u`, and the transport answers the request for it
with `response` of status 200. -/
structure Brings (u : Url) (response : Response) : Prop where
  /-- The query leads to the address of the page. -/
  leads : q.LeadsTo u
  /-- The request for it is answered. -/
  arrives : transport (Request.ofUrl u r.headers) = .arrived response
  /-- It is answered with the page. -/
  status : response.status = 200

variable {q} in
/-- `Retriever.ask` fills in what the transport answers, or it fails and leaves the query as it is. -/
theorem ask_cases {u : Url} (address : q.url = some u) :
    ((∀ response, transport (Request.ofUrl u r.headers) ≠ .arrived response) ∧
        ∃ failure, r.ask transport q = (q, some failure)) ∨
      ∃ response, transport (Request.ofUrl u r.headers) = .arrived response ∧
        r.ask transport q = ({ q with status := some response.status, response := some response }, none) := by
  have request : r.request? q = some (Request.ofUrl u r.headers) := by rw [request?, address, Option.map_some]
  unfold ask
  rw [request]
  dsimp only
  cases transport (Request.ofUrl u r.headers) with
  | arrived response => exact .inr ⟨response, rfl, rfl⟩
  | lost => exact .inl ⟨fun _ ↦ nofun, _, rfl⟩
  | late => exact .inl ⟨fun _ ↦ nofun, _, rfl⟩

section Steps

variable {r transport q} {stage : FetchStage} {next : Query}

theorem steps_of_pass (passes : r.step transport q stage = (next, none)) (stages : List FetchStage) :
    r.steps transport (stage :: stages) q = r.steps transport stages next := by
  rw [steps, passes]

theorem steps_of_failure {failure : Failure} (fails : r.step transport q stage = (next, some failure))
    (stages : List FetchStage) : r.steps transport (stage :: stages) q = next.fail failure := by
  rw [steps, fails]

end Steps

/-- `Retriever.fetch` ends with a failure, with nothing but address and status filled in, or it fills in all that
`Brings` tells. -/
theorem fetch_cases :
    ((∀ u response, ¬ r.Brings transport q u response) ∧ ∃ url status failure, r.fetch transport q =
        { q with url := url, status := status, response := none, failure := some failure }) ∨
      ∃ u response, r.Brings transport q u response ∧ r.fetch transport q =
        { q with
          url := some u
          status := some 200
          response := some response
          decoder := some (r.decoderFor ((response.header? "content-encoding").getD "")) } := by
  unfold fetch FetchStage.all
  rcases q.readUrl_cases with ⟨astray, failure, read⟩ | ⟨u, leads, read⟩
  · have first : r.step transport q .readUrl = (q, some failure) := read
    rw [steps_of_failure first]
    exact .inl ⟨fun u response brings ↦ astray u brings.leads, _, _, failure, rfl⟩
  have first : r.step transport q .readUrl = ({ q with url := some u }, none) := read
  rw [steps_of_pass first]
  -- Only one address is read, so a page that arrives is the one that is asked for.
  have same {u' : Url} {response : Response} (brings : r.Brings transport q u' response) : u' = u :=
    Except.ok.inj (brings.leads.parse.symm.trans leads.parse)
  let sought : Query := { q with url := some u }
  rcases ask_cases r transport (show sought.url = some u from rfl) with
    ⟨lost, failure, asked⟩ | ⟨response, arrives, asked⟩
  · have second : r.step transport sought .request = (sought, some failure) := asked
    rw [steps_of_failure second]
    refine .inl ⟨fun u' response brings ↦ lost response ?_, _, _, failure, rfl⟩
    exact same brings ▸ brings.arrives
  let answered : Query := { sought with status := some response.status, response := some response }
  have second : r.step transport sought .request = (answered, none) := asked
  rw [steps_of_pass second]
  rcases Query.checkStatus_cases (show answered.status = some response.status from rfl) with
    ⟨bad, failure, checked⟩ | ⟨good, checked⟩
  · have third : r.step transport answered .checkStatus = (answered, some failure) := checked
    rw [steps_of_failure third]
    refine .inl ⟨fun u' response' brings ↦ bad ?_, _, _, failure, rfl⟩
    have asked_too := brings.arrives
    rw [same brings, arrives] at asked_too
    exact (Answer.arrived.inj asked_too) ▸ brings.status
  have third : r.step transport answered .checkStatus = (answered, none) := checked
  have fourth : r.step transport answered .selectDecoder = (_, none) := rfl
  rw [steps_of_pass third, steps_of_pass fourth, steps, good.symm]
  exact .inr ⟨u, response, ⟨leads, arrives, good⟩, rfl⟩

theorem id_rawUrl_fetch : (r.fetch transport q).id = q.id ∧ (r.fetch transport q).rawUrl = q.rawUrl := by
  rcases r.fetch_cases transport q with ⟨-, url, status, failure, ended⟩ | ⟨u, response, -, filled⟩
  · rw [ended]
    exact ⟨rfl, rfl⟩
  · rw [filled]
    exact ⟨rfl, rfl⟩

variable (id : Nat) (rawUrl : String)

/-- `Retriever.fetch` of a new query is `Fetched` exactly if `Brings` holds of some answer. -/
theorem fetched_fetch_iff : (r.fetch transport { id, rawUrl }).Fetched ↔
    ∃ u response, r.Brings transport { id, rawUrl } u response := by
  rcases r.fetch_cases transport { id, rawUrl } with
    ⟨nothing, url, status, failure, ended⟩ | ⟨u, response, brings, filled⟩
  · constructor
    · intro fetched
      rw [ended] at fetched
      cases fetched.failure
    · rintro ⟨u, response, brings⟩
      exact absurd brings (nothing u response)
  · refine ⟨fun _ ↦ ⟨u, response, brings⟩, fun _ ↦ ?_⟩
    rw [filled]
    exact ⟨rfl, rfl, ⟨u, ⟨brings.leads.parse, brings.leads.scheme⟩, rfl⟩, rfl, rfl, rfl⟩

/-- `Retriever.fetch` of a new query is `Fetched` or `Ended`. -/
theorem fetched_or_ended_fetch :
    (r.fetch transport { id, rawUrl }).Fetched ∨ (r.fetch transport { id, rawUrl }).Ended := by
  rcases r.fetch_cases transport { id, rawUrl } with
    ⟨-, url, status, failure, ended⟩ | ⟨u, response, brings, -⟩
  · rw [ended]
    exact .inr ⟨rfl, rfl, rfl, rfl⟩
  · exact .inl ((r.fetched_fetch_iff transport id rawUrl).2 ⟨u, response, brings⟩)

end Retriever

namespace Query

/-! ## Readings -/

/-- What is left of a query after `n` times `Query.content`, and what each time gave. -/
def readings : Nat → Query → Query × List (Except Failure String)
  | 0, q => (q, [])
  | n + 1, q =>
    let (q, result) := q.content
    let (q, results) := readings n q
    (q, result :: results)

variable {q : Query}

theorem readings_succ {next : Query} {result : Except Failure String} (first : q.content = (next, result)) (n : Nat) :
    readings (n + 1) q = ((readings n next).1, result :: (readings n next).2) := by
  rw [readings, first]

/-- Where `Query.content` leaves the query as it is, `readings` gives the same over and over. -/
theorem readings_of_unchanged {result : Except Failure String} (unchanged : q.content = (q, result)) (n : Nat) :
    readings n q = (q, List.replicate n result) := by
  induction n with
  | zero => rfl
  | succ n ih => rw [readings_succ unchanged, ih, List.replicate_succ]

/-- Without a decoder `Query.content` fails and changes nothing. -/
theorem content_of_undecided (undecided : q.decoder = none) :
    q.content = (q, .error (.of .noHandler q.rawUrl "Content" none)) := by
  rw [content, undecided]

/-- Without an answer `Query.content` fails and changes nothing. -/
theorem content_of_consumed {decoder : ContentDecoder} (decided : q.decoder = some decoder)
    (consumed : q.response = none) :
    q.content = (q, .error (.of .decode q.rawUrl "Content" (some .bodyConsumed))) := by
  rw [content, decided, consumed]

/-- `Query.content` decodes the body of an answer and takes the answer away. -/
theorem content_of_response {decoder : ContentDecoder} {response : Response} (decided : q.decoder = some decoder)
    (there : q.response = some response) :
    q.content = ({ q with response := none }, textOf q.rawUrl decoder response) := by
  rw [content, decided, there]

/-- In the `readings` of a page that has arrived, the body is decoded first, and after that there is none. -/
theorem Fetched.readings_succ (h : q.Fetched) :
    ∃ decoder response, q.decoder = some decoder ∧ q.response = some response ∧ ∀ n,
      q.readings (n + 1) = ({ q with response := none }, textOf q.rawUrl decoder response ::
        List.replicate n (.error (.of .decode q.rawUrl "Content" (some .bodyConsumed)))) := by
  obtain ⟨decoder, decided⟩ := Option.isSome_iff_exists.1 h.decoder
  obtain ⟨response, there⟩ := Option.isSome_iff_exists.1 h.response
  refine ⟨decoder, response, decided, there, fun n ↦ ?_⟩
  have consumed : ({ q with response := none } : Query).content = (_, _) := content_of_consumed decided rfl
  rw [Query.readings_succ (content_of_response decided there), readings_of_unchanged consumed]

end Query

namespace Retriever

/-- `Retriever.fetch` of a new query is `Fetched`, exactly if the page `Brings` an answer, or `Ended`. A query
that is `Fetched` gives out its body with the first of its `readings` and never again, whatever the first one
gives; one that is `Ended` gives out nothing; and without a decoder no reading changes a query. -/
theorem fetch_readings_once_or_never (r : Retriever) (transport : Transport) (id : Nat) (rawUrl : String) :
    let q := r.fetch transport { id, rawUrl }
    (q.id = id ∧ q.rawUrl = rawUrl) ∧ (q.Fetched ∨ q.Ended) ∧
      (q.Fetched ↔ ∃ u response, r.Brings transport { id, rawUrl } u response) ∧
      (q.Fetched → ∃ decoder response, q.decoder = some decoder ∧ q.response = some response ∧ ∀ n,
        q.readings (n + 1) = ({ q with response := none }, Query.textOf q.rawUrl decoder response ::
          List.replicate n (.error (.of .decode q.rawUrl "Content" (some .bodyConsumed))))) ∧
      (q.Ended → ∀ n,
        q.readings n = (q, List.replicate n (.error (.of .noHandler q.rawUrl "Content" none)))) ∧
      ∀ q : Query, q.decoder = none → q.content = (q, .error (.of .noHandler q.rawUrl "Content" none)) :=
  ⟨r.id_rawUrl_fetch transport { id, rawUrl }, r.fetched_or_ended_fetch transport id rawUrl,
    r.fetched_fetch_iff transport id rawUrl, Query.Fetched.readings_succ,
    fun ended ↦ Query.readings_of_unchanged (Query.content_of_undecided ended.decoder),
    fun _ ↦ Query.content_of_undecided⟩

/-- A retriever that can unpack what is packed. -/
def unpacking : Retriever := ⟨Table.empty, Setting.usualTimeout, Table.empty.insert "gzip" .gzip⟩

/-- A page that is said to be packed and is not. -/
def unpackable : Response := ⟨200, Table.empty.insert "content-encoding" " GZIP ", some [0x3C]⟩

/-- The query for the page `unpackable`, fetched by `unpacking`. -/
def pageQuery : Query := unpacking.fetch (fun _ ↦ .arrived unpackable) { id := 7, rawUrl := " http://[::1]/ " }

/-- The page `unpackable` arrives, its body cannot be decoded, and after that it is gone all the same. -/
theorem fetch_readings_unpackable : pageQuery.Fetched ∧ (pageQuery.readings 3).2 =
    [.error (.of .decode " http://[::1]/ " "Content" (some (.undecodable "gzip" .unexpectedEnd))),
      .error (.of .decode " http://[::1]/ " "Content" (some .bodyConsumed)),
      .error (.of .decode " http://[::1]/ " "Content" (some .bodyConsumed))] := by
  obtain ⟨-, -, arrives, once, -⟩ :=
    fetch_readings_once_or_never unpacking (fun _ ↦ .arrived unpackable) 7 " http://[::1]/ "
  let home : Url := ⟨"http".toList, some ⟨[], none, some (.ipv6 [0, 0, 0, 0, 0, 0, 0, 1]), none⟩, ['/'], none, none⟩
  have fetched : pageQuery.Fetched := arrives.2 ⟨home, unpackable, ⟨by rfl, by decide⟩, rfl, rfl⟩
  obtain ⟨decoder, response, decided, there, read⟩ := once fetched
  have gzip : pageQuery.decoder = some .gzip := rfl
  have body : pageQuery.response = some unpackable := rfl
  cases gzip.symm.trans decided
  cases body.symm.trans there
  exact ⟨fetched, congrArg Prod.snd (read 2)⟩

end Retriever

end Gazette
