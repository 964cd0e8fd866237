import Gazette.Fetch.Pipeline

/-!
# What fetching leaves alone

`Retriever.step` fills in the address, the status, the answer and the decoder of a `Query`; `Query.unfetched` is
all the rest, which no stage of fetching changes. The number of a page, `Query.id`, is part of that, and it is
there for the reports only: `Query.numbered`, the page with another number, goes the same way through every
stage, `Pipeline.apply`.
-/

namespace Gazette

namespace Query

variable (q : Query)

/-- The query `q` without what fetching fills in. -/
def unfetched : Query := { q with url := none, status := none, response := none, decoder := none }

/-- The query `q` with the number `n`. -/
def numbered (n : Nat) : Query := { q with id := n }

theorem unfetched_readUrl : q.readUrl.1.unfetched = q.unfetched := by
  simp only [readUrl]
  split
  · rfl
  · split
    · rfl
    · split <;> rfl

theorem unfetched_checkStatus : q.checkStatus.1.unfetched = q.unfetched := by
  unfold checkStatus
  split <;> rfl

/-- `Query.content` keeps `unfetched`. -/
theorem unfetched_content : q.content.1.unfetched = q.unfetched := by
  unfold content
  split
  · rfl
  · split <;> rfl

theorem issues_content : q.content.1.issues = q.issues := by
  have kept := congrArg issues q.unfetched_content
  exact kept

section Numbered

variable (n : Nat)

@[simp] theorem rawUrl_numbered : (q.numbered n).rawUrl = q.rawUrl := rfl

@[simp] theorem url_numbered : (q.numbered n).url = q.url := rfl

@[simp] theorem status_numbered : (q.numbered n).status = q.status := rfl

@[simp] theorem response_numbered : (q.numbered n).response = q.response := rfl

@[simp] theorem decoder_numbered : (q.numbered n).decoder = q.decoder := rfl

/-- `Query.readUrl` is the same under any number. -/
theorem readUrl_numbered :
    (q.numbered n).readUrl = (q.readUrl.1.numbered n, q.readUrl.2) := by
  simp only [readUrl, rawUrl_numbered]
  by_cases empty : (Text.trim q.rawUrl).isEmpty
  · simp only [empty, if_true]
  · cases Url.parse (Text.trim q.rawUrl) with
    | error e => simp only [empty, if_false, Bool.false_eq_true]
    | ok u =>
      by_cases known : u.scheme = "http".toList ∨ u.scheme = "https".toList
      · simp only [empty, known, if_true, if_false, Bool.false_eq_true]
        rfl
      · simp only [empty, known, if_false, Bool.false_eq_true]

/-- `Query.checkStatus` is the same under any number. -/
theorem checkStatus_numbered :
    (q.numbered n).checkStatus = (q.checkStatus.1.numbered n, q.checkStatus.2) := by
  cases answered : q.status with
  | none => simp only [checkStatus, status_numbered, rawUrl_numbered, answered]
  | some status => simp only [checkStatus, status_numbered, rawUrl_numbered, answered]

/-- `Query.content` is the same under any number. -/
theorem content_numbered :
    (q.numbered n).content = (q.content.1.numbered n, q.content.2) := by
  simp only [content, decoder_numbered, response_numbered, rawUrl_numbered]
  cases q.decoder with
  | none => rfl
  | some decoder =>
    cases q.response with
    | none => rfl
    | some response => rfl

end Numbered

/-- Where `Query.readUrl` succeeds, the address is what `Url.parse` makes of the trimmed text. -/
theorem url_of_readUrl {next : Query} (h : q.readUrl = (next, none)) :
    ∃ u, Url.parse (Text.trim q.rawUrl) = .ok u ∧ next.url = some u := by
  simp only [readUrl] at h
  split at h
  · simp at h
  · split at h
    · simp at h
    · next u read =>
      split at h
      · obtain ⟨rfl, -⟩ := Prod.mk.inj h
        exact ⟨u, read, rfl⟩
      · simp at h

end Query

namespace Retriever

variable (r : Retriever) (transport : Transport) (q : Query)

/-- `Retriever.step` keeps `unfetched`. -/
theorem unfetched_step (stage : FetchStage) : (r.step transport q stage).1.unfetched = q.unfetched := by
  cases stage with
  | readUrl => simp only [step, Query.unfetched_readUrl]
  | request =>
    simp only [step, ask]
    split
    · rfl
    · split <;> rfl
  | checkStatus => simp only [step, Query.unfetched_checkStatus]
  | selectDecoder =>
    simp only [step, selectDecoder]
    split <;> rfl

/-- Of the stages, only `FetchStage.readUrl` changes the address. -/
theorem url_step {stage : FetchStage} (h : stage ≠ .readUrl) :
    (r.step transport q stage).1.url = q.url := by
  cases stage with
  | readUrl => exact absurd rfl h
  | request =>
    simp only [step, ask]
    split
    · rfl
    · split <;> rfl
  | checkStatus =>
    simp only [step, Query.checkStatus]
    split <;> rfl
  | selectDecoder =>
    simp only [step, selectDecoder]
    split <;> rfl

/-- `Retriever.step` is the same under any number. -/
theorem step_numbered (n : Nat) (stage : FetchStage) :
    r.step transport (q.numbered n) stage =
      ((r.step transport q stage).1.numbered n, (r.step transport q stage).2) := by
  cases stage with
  | readUrl => simp only [step, Query.readUrl_numbered]
  | request =>
    have same : r.request? (q.numbered n) = r.request? q := rfl
    simp only [step, ask, same, Query.rawUrl_numbered]
    cases r.request? q with
    | none => rfl
    | some request =>
      dsimp only
      cases transport request <;> rfl
  | checkStatus => simp only [step, Query.checkStatus_numbered]
  | selectDecoder =>
    simp only [step, selectDecoder, Query.response_numbered, Query.rawUrl_numbered]
    cases q.response <;> rfl

end Retriever

namespace Registry

variable (r : Registry) (q : Query)

theorem id_complete : (r.complete q).1.id = q.id := by
  have kept := congrArg Query.id q.unfetched_content
  unfold complete
  split
  · rfl
  · split
    · rfl
    · split
      · next left failure read =>
        rw [read] at kept
        exact kept
      · next left html read =>
        rw [read] at kept
        exact kept

/-- `Registry.complete` is the same under any number. -/
theorem complete_numbered (n : Nat) :
    r.complete (q.numbered n) = ((r.complete q).1.numbered n, (r.complete q).2) := by
  simp only [complete, Query.url_numbered, Query.rawUrl_numbered, Query.content_numbered]
  cases q.url with
  | none => rfl
  | some u =>
    dsimp only
    cases r.siteOf u with
    | error failure => rfl
    | ok site =>
      dsimp only
      rcases q.content with ⟨left, failure | html⟩ <;> rfl

end Registry

namespace Pipeline

variable (p : Pipeline) (transport : Transport) (q : Query)

/-- `Pipeline.apply` keeps the number of a page. -/
theorem id_apply (stage : Stage) : (p.apply transport q stage).1.id = q.id := by
  cases stage with
  | fetch stage =>
    have kept := congrArg Query.id (p.retriever.unfetched_step transport q stage)
    exact kept
  | extract =>
    unfold apply
    cases p.registry with
    | some registry => exact registry.id_complete q
    | none => rfl

/-- `Pipeline.apply` is the same under any number. -/
theorem apply_numbered (n : Nat) (stage : Stage) :
    p.apply transport (q.numbered n) stage =
      ((p.apply transport q stage).1.numbered n, (p.apply transport q stage).2) := by
  cases stage with
  | fetch stage => simp only [apply, Retriever.step_numbered]
  | extract =>
    simp only [apply]
    cases p.registry with
    | some registry => exact registry.complete_numbered q n
    | none => rfl

end Pipeline

end Gazette
