import Gazette.Client
import Gazette.Proofs.Pipeline.Stages

/-!
# One page or many

A client makes the record of one page (`Client.parse`), of many (`Client.parseAll`), or of a page that was
fetched before (`Client.extract`). All three go through the same stages, though not with the same checks in the
same order: alone, a page is asked for only if its host is claimed (`Registry.supports`), while in a `Pipeline`
that is found out in the last stage, `Registry.complete`. Here the three are shown to agree: `entries_agree`.

`Retriever.fetch` keeps what a query brings, and so does `Pipeline.processFrom` over the stages of fetching
(`steps_cases`); from there on both hand the query to `Registry.complete`.
-/

namespace Gazette

/-! ## Tables filled anew -/

namespace Table

variable {α : Type}

/-- `insertEntry` puts an entry whose key comes after all others at the end. -/
theorem insertEntry_of_forall_lt {key : String} {value : α} {entries : List (String × α)}
    (last : ∀ e ∈ entries, e.1 < key) :
    insertEntry key value entries = entries ++ [(key, value)] := by
  induction entries with
  | nil => rfl
  | cons hd tl ih =>
    have before : hd.1 < key := last hd List.mem_cons_self
    have after : ¬ key < hd.1 := fun h ↦ String.lt_irrefl _ (String.lt_trans before h)
    have other : key ≠ hd.1 := fun h ↦ String.lt_irrefl _ (h ▸ before)
    rw [insertEntry, if_neg after, if_neg other,
      ih fun e he ↦ last e (List.mem_cons_of_mem _ he), List.cons_append]

/-- `Table.insertAll` puts entries at the end if they ascend and their keys come after those of the table. -/
theorem entries_insertAll (t : Table α) (entries : List (String × α))
    (sorted : (t.entries ++ entries).Pairwise fun a b ↦ a.1 < b.1) :
    (t.insertAll entries).entries = t.entries ++ entries := by
  induction entries generalizing t with
  | nil => exact (List.append_nil _).symm
  | cons hd tl ih =>
    have put : (t.insert hd.1 hd.2).entries = t.entries ++ [hd] := by
      refine insertEntry_of_forall_lt fun e he ↦ ?_
      exact (List.pairwise_append.1 sorted).2.2 e he hd List.mem_cons_self
    have rest := ih (t.insert hd.1 hd.2) (by rw [put, List.append_assoc]; exact sorted)
    rw [put, List.append_assoc] at rest
    exact rest

theorem insertAll_entries (t : Table α) : empty.insertAll t.entries = t := by
  have same := entries_insertAll empty t.entries t.sorted
  cases filled : empty.insertAll t.entries with
  | mk entries sorted =>
    rw [filled] at same
    cases t
    cases same
    rfl

end Table

/-! ## Fetching as part of a pipeline -/

namespace Pipeline

variable {p : Pipeline} {transport : Transport} {q q' : Query}

/-- On stages of fetching, `Pipeline.processFrom` and `Retriever.steps` do the same: both let a page pass and
leave it the same, or both end for the same reason. -/
theorem steps_cases (number : Nat) (stages : List FetchStage) (q : Query) :
    p.processFrom transport number (stages.map .fetch) q =
        .ok (p.retriever.steps transport stages q) ∨
      ∃ f, p.processFrom transport number (stages.map .fetch) q = .error f ∧
        (p.retriever.steps transport stages q).failure = some f.failure := by
  induction stages generalizing number q with
  | nil => exact .inl rfl
  | cons stage stages ih =>
    rw [List.map_cons, Retriever.steps]
    rcases stepped : p.retriever.step transport q stage with ⟨next, _ | failure⟩
    · have applied : p.apply transport q (.fetch stage) = (next, none) := stepped
      rw [processFrom_of_apply applied]
      exact ih (number + 1) next
    · have applied : p.apply transport q (.fetch stage) = (next, some failure) := stepped
      rw [processFrom_of_apply_some applied]
      exact .inr ⟨_, rfl, rfl⟩

/-- `processFrom` over stages of fetching keeps `Query.unfetched`. -/
theorem unfetched_of_processFrom {number : Nat} {stages : List FetchStage}
    (h : p.processFrom transport number (stages.map .fetch) q = .ok q') :
    q'.unfetched = q.unfetched := by
  refine processFrom_keeps Query.unfetched (fun stage fetching q ↦ ?_) h
  obtain ⟨stage, -, rfl⟩ := List.mem_map.1 fetching
  exact p.retriever.unfetched_step transport q stage

theorem failure_of_processFrom {number : Nat} {stages : List FetchStage}
    (h : p.processFrom transport number (stages.map .fetch) q = .ok q') :
    q'.failure = q.failure := by
  have kept := congrArg Query.failure (unfetched_of_processFrom h)
  exact kept

theorem issues_of_processFrom {number : Nat} {stages : List FetchStage}
    (h : p.processFrom transport number (stages.map .fetch) q = .ok q') :
    q'.issues = q.issues := by
  have kept := congrArg Query.issues (unfetched_of_processFrom h)
  exact kept

/-- A page that went through all of `FetchStage.all` has the address that `Url.parse` makes of its text. -/
theorem url_of_fetched (h : p.processFrom transport 1 (FetchStage.all.map .fetch) q = .ok q') :
    ∃ u, Url.parse (Text.trim q.rawUrl) = .ok u ∧ q'.url = some u := by
  rcases read : q.readUrl with ⟨next, _ | failure⟩
  · have applied : p.apply transport q (.fetch .readUrl) = (next, none) := read
    obtain ⟨u, parsed, address⟩ := q.url_of_readUrl read
    have rest : p.processFrom transport 2
        ([FetchStage.request, .checkStatus, .selectDecoder].map .fetch) next = .ok q' := by
      rw [← h]
      exact (processFrom_of_apply applied).symm
    have kept := processFrom_keeps Query.url (fun stage later q ↦ ?_) rest
    · exact ⟨u, parsed, kept.trans address⟩
    · obtain ⟨stage, other, rfl⟩ := List.mem_map.1 later
      refine p.retriever.url_step transport q fun first ↦ ?_
      simp [first] at other
  · have applied : p.apply transport q (.fetch .readUrl) = (next, some failure) := read
    have ended : p.processFrom transport 1 (FetchStage.all.map .fetch) q = .error _ :=
      processFrom_of_apply_some applied
    rw [ended] at h
    cases h

end Pipeline

/-- Where `Registry.complete` makes a record, it is `Site.extract` of the body, by the site that claims the
address. -/
theorem Registry.complete_eq_ok {r : Registry} {q q' : Query} (h : r.complete q = (q', none)) :
    ∃ u site html, q.url = some u ∧ r.siteOf u = .ok site ∧ q.content.2 = .ok html ∧
      q'.article = some (site.extract html u).article ∧
      q'.issues = q.content.1.issues.extend (site.extract html u).issues := by
  unfold complete at h
  split at h
  · simp at h
  · next u address =>
    split at h
    · simp at h
    · next site claimed =>
      split at h
      · simp at h
      · next left html read =>
        obtain ⟨rfl, -⟩ := Prod.mk.inj h
        rw [read]
        exact ⟨u, site, html, address, claimed, rfl, rfl, rfl⟩

/-- `Registry.supports` holds of the host of an address for which `siteOf` finds a site. -/
theorem Registry.supports_of_siteOf {r : Registry} {u : Url} {site : Site}
    (h : r.siteOf u = .ok site) : r.supports (hostOf u) := by
  unfold siteOf at h
  unfold supports
  cases claimed : r.get? (hostOf u) with
  | none => simp [claimed] at h
  | some site => rfl

namespace Client

variable {c : Client} {transport : Transport} {u : String}

variable (c transport) in
/-- `Pipeline.process` of a client fetches a page and makes its record: `Retriever.fetch` fails, or the page is
fetched, and `Registry.complete` fails or does not. -/
theorem process_cases (q : Query) :
    (∃ f, c.pipeline.process transport q = .error f ∧
      (c.retriever.fetch transport q).failure = some f.failure) ∨
    c.pipeline.processFrom transport 1 (FetchStage.all.map .fetch) q =
        .ok (c.retriever.fetch transport q) ∧
      ((∃ f left, c.pipeline.process transport q = .error f ∧
        c.registry.complete (c.retriever.fetch transport q) = (left, some f.failure)) ∨
      ∃ q', c.pipeline.process transport q = .ok q' ∧
        c.registry.complete (c.retriever.fetch transport q) = (q', none)) := by
  rcases Pipeline.steps_cases 1 FetchStage.all q with fetched | ⟨f, ended, failed⟩
  · have last : c.pipeline.process transport q =
        c.pipeline.processFrom transport 5 [.extract] (c.retriever.fetch transport q) :=
      Pipeline.processFrom_append_of_ok fetched
    refine .inr ⟨fetched, ?_⟩
    rcases completed : c.registry.complete (c.retriever.fetch transport q) with ⟨left, _ | failure⟩
    · have applied : c.pipeline.apply transport (c.retriever.fetch transport q) .extract =
          (left, none) := completed
      rw [Pipeline.processFrom_of_apply applied] at last
      exact .inr ⟨left, last, rfl⟩
    · have applied : c.pipeline.apply transport (c.retriever.fetch transport q) .extract =
          (left, some failure) := completed
      rw [Pipeline.processFrom_of_apply_some applied] at last
      exact .inl ⟨_, left, last, rfl⟩
  · exact .inl ⟨f, Pipeline.processFrom_append_of_error ended, failed⟩

/-- A page that `process` emits is what `Registry.complete` makes of the fetched page. -/
theorem complete_of_process {q q' : Query} (h : c.pipeline.process transport q = .ok q') :
    c.pipeline.processFrom transport 1 (FetchStage.all.map .fetch) q =
        .ok (c.retriever.fetch transport q) ∧
      c.registry.complete (c.retriever.fetch transport q) = (q', none) := by
  rcases process_cases c transport q with
    ⟨f, ended, -⟩ | ⟨fetched, ⟨f, left, ended, -⟩ | ⟨q'', through, completed⟩⟩
  · rw [ended] at h
    cases h
  · rw [ended] at h
    cases h
  · obtain rfl : q'' = q' := Except.ok.inj (through.symm.trans h)
    exact ⟨fetched, completed⟩

/-- `process` emits a page only if its address can be read and a site claims it, and then there is a record of
it. -/
theorem claimed_of_process {q q' : Query} (h : c.pipeline.process transport q = .ok q') :
    ∃ url, Url.parse (Text.trim q.rawUrl) = .ok url ∧ c.registry.supports (Registry.hostOf url) ∧
      ∃ a, q'.article = some a := by
  obtain ⟨fetched, completed⟩ := complete_of_process h
  obtain ⟨url, site, html, address, owner, -, article, -⟩ := Registry.complete_eq_ok completed
  obtain ⟨read, parsed, same⟩ := Pipeline.url_of_fetched fetched
  obtain rfl : read = url := Option.some.inj (same.symm.trans address)
  exact ⟨read, parsed, Registry.supports_of_siteOf owner, _, article⟩

/-- `Client.pageUrl` is `Url.parse` of the trimmed text. -/
theorem pageUrl_eq_ok_iff {activity : String} {url : Url} :
    pageUrl activity u = .ok url ↔ Url.parse (Text.trim u) = .ok url := by
  unfold pageUrl
  cases Url.parse (Text.trim u) with
  | ok other =>
    constructor
    · rintro ⟨⟩
      rfl
    · rintro ⟨⟩
      rfl
  | error fault =>
    constructor
    · rintro ⟨⟩
    · rintro ⟨⟩

/-- `Client.parse` makes a record only if the address can be read and a site claims it. -/
theorem claimed_of_parse {e : Extraction} (h : c.parse transport u = .ok e) :
    ∃ url, Url.parse (Text.trim u) = .ok url ∧ c.registry.supports (Registry.hostOf url) := by
  unfold parse at h
  cases read : pageUrl "Parse" u with
  | error failure =>
    rw [read] at h
    cases h
  | ok url =>
    rw [read] at h
    refine ⟨url, pageUrl_eq_ok_iff.1 read, ?_⟩
    cases claimed : c.registry.supports (Registry.hostOf url) with
    | true => rfl
    | false =>
      simp only [bind, Except.bind, claimed, Bool.not_false, if_true] at h
      cases h

section Claimed

variable {url : Url} (read : Url.parse (Text.trim u) = .ok url)
  (claimed : c.registry.supports (Registry.hostOf url))

include read claimed

/-- `Client.parse` of a page whose host is claimed fails as `Retriever.fetch` does. -/
theorem parse_of_failure {failure : Failure}
    (failed : (c.retriever.fetch transport { id := 0, rawUrl := u }).failure = some failure) :
    c.parse transport u = .error failure := by
  unfold parse
  rw [pageUrl_eq_ok_iff.2 read]
  simp only [bind, Except.bind, claimed, Bool.not_true, Bool.false_eq_true,
    if_false, failed]
  rfl

/-- `Client.parse` of a page whose host is claimed fails as `Registry.complete` does. -/
theorem parse_of_complete_some {left : Query} {failure : Failure}
    (fetched : (c.retriever.fetch transport { id := 0, rawUrl := u }).failure = none)
    (completed : c.registry.complete (c.retriever.fetch transport { id := 0, rawUrl := u }) =
      (left, some failure)) : c.parse transport u = .error failure := by
  unfold parse
  rw [pageUrl_eq_ok_iff.2 read]
  simp only [bind, Except.bind, claimed, Bool.not_true, Bool.false_eq_true,
    if_false, fetched, completed]
  rfl

/-- `Client.parse` of a page whose host is claimed gives the record that `Registry.complete` makes. -/
theorem parse_of_complete {q : Query} {a : Article}
    (fetched : (c.retriever.fetch transport { id := 0, rawUrl := u }).failure = none)
    (completed : c.registry.complete (c.retriever.fetch transport { id := 0, rawUrl := u }) =
      (q, none)) (article : q.article = some a) :
    c.parse transport u = .ok ⟨a, q.issues⟩ := by
  unfold parse
  rw [pageUrl_eq_ok_iff.2 read]
  simp only [bind, Except.bind, claimed, Bool.not_true, Bool.false_eq_true,
    if_false, fetched, completed, article]
  rfl

/-- `Client.parse` of a page whose host is claimed gives the record that `process` gives. -/
theorem parse_of_process {q : Query}
    (h : c.pipeline.process transport { id := 0, rawUrl := u } = .ok q) :
    ∃ e, c.parse transport u = .ok e ∧ q.article = some e.article ∧ q.issues = e.issues := by
  obtain ⟨fetched, completed⟩ := complete_of_process h
  obtain ⟨-, -, -, a, article⟩ := claimed_of_process h
  have whole := Pipeline.failure_of_processFrom fetched
  exact ⟨_, parse_of_complete read claimed whole completed article, article, rfl⟩

/-- `Client.parse` of a page whose host is claimed fails for the reason for which `process` fails. -/
theorem parse_of_process_error {f : StageFailure}
    (h : c.pipeline.process transport { id := 0, rawUrl := u } = .error f) :
    c.parse transport u = .error f.failure := by
  rcases process_cases c transport { id := 0, rawUrl := u } with
    ⟨f', ended, failed⟩ | ⟨fetched, ⟨f', left, ended, failed⟩ | ⟨_, through, completed⟩⟩
  · obtain rfl := Except.error.inj (ended.symm.trans h)
    exact parse_of_failure read claimed failed
  · obtain rfl := Except.error.inj (ended.symm.trans h)
    have whole := Pipeline.failure_of_processFrom fetched
    exact parse_of_complete_some read claimed whole failed
  · rw [through] at h
    cases h

end Claimed

/-- What `Client.parse` gives for a page, `process` gives for it under any number. -/
theorem process_of_parse {e : Extraction} (h : c.parse transport u = .ok e) (n : Nat) :
    ∃ q, c.pipeline.process transport { id := n, rawUrl := u } = .ok q ∧
      q.article = some e.article ∧ q.issues = e.issues := by
  obtain ⟨url, read, claimed⟩ := claimed_of_parse h
  have same := c.pipeline.process_numbered transport n { id := 0, rawUrl := u }
  cases through : c.pipeline.process transport { id := 0, rawUrl := u } with
  | error f =>
    rw [parse_of_process_error read claimed through] at h
    cases h
  | ok q =>
    rw [through] at same
    obtain ⟨e', parsed, article, issues⟩ := parse_of_process read claimed through
    obtain rfl := Except.ok.inj (parsed.symm.trans h)
    exact ⟨q.numbered n, same, article, issues⟩

/-- What `process` gives for a page under some number, `Client.parse` gives for it. -/
theorem parse_of_process_numbered {n : Nat} {q : Query}
    (h : c.pipeline.process transport { id := n, rawUrl := u } = .ok q) :
    ∃ e, c.parse transport u = .ok e := by
  obtain ⟨url, read, claimed, -⟩ := claimed_of_process h
  have same := c.pipeline.process_numbered transport 0 { id := n, rawUrl := u }
  rw [h] at same
  obtain ⟨e, parsed, -⟩ := parse_of_process read claimed same
  exact ⟨e, parsed⟩

/-- `Client.parse` of a page whose host is claimed fails exactly for the reason for which `process` fails, under
any number. -/
theorem parse_eq_error_iff {url : Url} (read : Url.parse (Text.trim u) = .ok url)
    (claimed : c.registry.supports (Registry.hostOf url)) (n : Nat) (failure : Failure) :
    c.parse transport u = .error failure ↔
      ∃ stage name, c.pipeline.process transport { id := n, rawUrl := u } =
        .error ⟨n, stage, name, failure⟩ := by
  have same := c.pipeline.process_numbered transport n { id := 0, rawUrl := u }
  cases came : c.pipeline.process transport { id := 0, rawUrl := u } with
  | ok q =>
    obtain ⟨e, parsed, -⟩ := parse_of_process read claimed came
    have through : c.pipeline.process transport { id := n, rawUrl := u } = .ok (q.numbered n) := by
      rw [came] at same
      exact same
    simp [parsed, through]
  | error f =>
    have failed : c.pipeline.process transport { id := n, rawUrl := u } =
        .error ⟨n, f.stage, f.stageName, f.failure⟩ := by
      rw [came] at same
      exact same
    simp [parse_of_process_error read claimed came, failed]

variable (c) in
/-- `Client.extract` of a page is `Site.extract` by the site that claims its address. -/
theorem extract_of_siteOf (html : String) {url : Url} (read : Url.parse (Text.trim u) = .ok url)
    {site : Site} (owner : c.registry.siteOf url = .ok site) :
    c.extract html u = .ok (site.extract html url) := by
  unfold extract Registry.extract
  rw [pageUrl_eq_ok_iff.2 read]
  simp only [bind, Except.bind, owner, Except.map]

/-- `Client.extract` of the body that was fetched gives the record that `Client.parse` gives. -/
theorem extract_of_parse {e : Extraction} {html : String} (h : c.parse transport u = .ok e)
    (body : (c.retriever.fetch transport { id := 0, rawUrl := u }).content.2 = .ok html) :
    c.extract html u = .ok e := by
  obtain ⟨q, through, article, issues⟩ := process_of_parse h 0
  obtain ⟨fetched, completed⟩ := complete_of_process through
  obtain ⟨url, site, text, address, owner, same, article', issues'⟩ :=
    Registry.complete_eq_ok completed
  obtain ⟨url', read, address'⟩ := Pipeline.url_of_fetched fetched
  obtain rfl : url' = url := Option.some.inj (address'.symm.trans address)
  obtain rfl : html = text := Except.ok.inj (body.symm.trans same)
  have made := c.extract_of_siteOf html read owner
  generalize site.extract html url' = record at *
  rw [Query.issues_content, Pipeline.issues_of_processFrom fetched] at issues'
  have whole : e.issues = record.issues :=
    issues.symm.trans (issues'.trans (Table.insertAll_entries record.issues))
  have named : e.article = record.article := Option.some.inj (article.symm.trans article')
  obtain ⟨a, more⟩ := e
  obtain rfl : a = record.article := named
  obtain rfl : more = record.issues := whole
  exact made

/-- A page has the same record whichever way it is asked for. `Client.parse` gives one exactly if
`Client.parseAll` emits the page, and then record and issues are the same. If its address can be read and a site
claims the host, `parse` fails for the very reason that `parseAll` reports. And if there is a record,
`Client.extract` of the text of the body gives the same one without a request. -/
theorem entries_agree (c : Client) (transport : Transport) (urls : List String)
    (i : Nat) (h : i < urls.length) :
    let u := urls[i]
    let o := c.parseAll transport urls
    ((∃ e, c.parse transport u = .ok e) ↔ ∃ q ∈ o.queries, q.id = i + 1) ∧
    (∀ e, c.parse transport u = .ok e → ∀ q ∈ o.queries, q.id = i + 1 →
      q.article = some e.article ∧ q.issues = e.issues) ∧
    (∀ url, Url.parse (Text.trim u) = .ok url → c.registry.supports (Registry.hostOf url) →
      ∀ failure, c.parse transport u = .error failure ↔
        ∃ stage name, ⟨i + 1, stage, name, failure⟩ ∈ o.failures) ∧
    ∀ e html, c.parse transport u = .ok e →
      (c.retriever.fetch transport { id := 0, rawUrl := u }).content.2 = .ok html →
      c.extract html u = .ok e := by
  intro u o
  refine ⟨⟨?_, ?_⟩, ?_, ?_, fun e html parsed body ↦ extract_of_parse parsed body⟩
  · rintro ⟨e, parsed⟩
    obtain ⟨q, through, -⟩ := process_of_parse parsed (i + 1)
    exact ⟨q, (Pipeline.mem_queries_run h).2 through⟩
  · rintro ⟨q, emitted⟩
    exact parse_of_process_numbered ((Pipeline.mem_queries_run h).1 emitted)
  · intro e parsed q emitted number
    have through := (Pipeline.mem_queries_run h).1 ⟨emitted, number⟩
    obtain ⟨q', through', same⟩ := process_of_parse parsed (i + 1)
    obtain rfl := Except.ok.inj (through'.symm.trans through)
    exact same
  · intro url read claimed failure
    rw [parse_eq_error_iff read claimed (i + 1) failure]
    refine exists_congr fun stage ↦ exists_congr fun name ↦ ?_
    rw [← Pipeline.mem_failures_run h]
    simp [o, parseAll]

/-- A client whose only site claims the host `[::1]`. -/
def loopback : Client where
  retriever := ⟨Table.empty, Setting.usualTimeout, Table.empty⟩
  registry := .ofSites [{ Site.radioFrance with domains := ["[::1]"] }]
  capacity := 1

/-- A transport that answers every request with an empty page. -/
def emptyPage : Transport := fun _ ↦ .arrived ⟨200, Table.empty, some []⟩

theorem exists_of_isSome {ε α : Type} {x : Except ε α} (h : x.toOption.isSome) :
    ∃ a, x = .ok a := by
  cases x with
  | error failure => cases h
  | ok a => exact ⟨a, rfl⟩

/-- `emptyPage` has the same record for the client `loopback` whichever way it is asked for. -/
theorem entries_agree_emptyPage :
    ∃ e html q, loopback.parse emptyPage " http://[::1]/ " = .ok e ∧
      q ∈ (loopback.parseAll emptyPage [" http://[::1]/ "]).queries ∧
      q.article = some e.article ∧ q.issues = e.issues ∧
      loopback.extract html " http://[::1]/ " = .ok e := by
  obtain ⟨emitted, same, -, saved⟩ :=
    entries_agree loopback emptyPage [" http://[::1]/ "] 0 (by decide)
  obtain ⟨e, parsed⟩ : ∃ e, loopback.parse emptyPage " http://[::1]/ " = .ok e :=
    exists_of_isSome (by decide +kernel)
  obtain ⟨html, read⟩ : ∃ html, (loopback.retriever.fetch emptyPage
      { id := 0, rawUrl := " http://[::1]/ " }).content.2 = .ok html :=
    exists_of_isSome (by decide +kernel)
  obtain ⟨q, through, number⟩ := emitted.1 ⟨e, parsed⟩
  obtain ⟨article, issues⟩ := same e parsed q through number
  exact ⟨e, html, q, parsed, through, article, issues, saved e html parsed read⟩

end Client

end Gazette
