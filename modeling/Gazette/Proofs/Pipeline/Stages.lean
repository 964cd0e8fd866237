import Gazette.Proofs.Fetch.Frame

/-!
# One page in a pipeline

What comes of a page that goes through the stages of a pipeline in order, by `Pipeline.processFrom`: it has
passed them all (`processFrom_eq_ok_iff`), or the first stage that fails on it is reported, with its number and
its name, under the number of the page (`processFrom_eq_error_iff`). At any point of the way this is settled by
the stages that are left, which is what `Pipeline.remainder` says. `Pipeline.run` does so with each page for
itself (`run_eq`).
-/

namespace Gazette

namespace Pipeline

variable {p : Pipeline} {transport : Transport}

theorem id_of_apply {q left : Query} {stage : Stage} {failure : Option Failure}
    (h : p.apply transport q stage = (left, failure)) : left.id = q.id := by
  have kept := p.id_apply transport q stage
  rw [h] at kept
  exact kept

/-! ## In order -/

variable (p transport) in
/-- What `Pipeline.apply` leaves of a page, unless the stage fails on it. -/
def pass (q : Query) (stage : Stage) : Option Query :=
  match p.apply transport q stage with
  | (q, none) => some q
  | (_, some _) => none

theorem pass_of_apply {q next : Query} {stage : Stage}
    (h : p.apply transport q stage = (next, none)) : p.pass transport q stage = some next := by
  unfold pass
  rw [h]

theorem pass_of_apply_some {q left : Query} {stage : Stage} {failure : Failure}
    (h : p.apply transport q stage = (left, some failure)) : p.pass transport q stage = none := by
  unfold pass
  rw [h]

/-- `processFrom` goes on with a page that the first stage lets pass. -/
theorem processFrom_of_apply {number : Nat} {stage : Stage} {stages : List Stage} {q next : Query}
    (h : p.apply transport q stage = (next, none)) :
    p.processFrom transport number (stage :: stages) q =
      p.processFrom transport (number + 1) stages next := by
  rw [processFrom, h]

/-- `processFrom` reports a page on which the first stage fails. -/
theorem processFrom_of_apply_some {number : Nat} {stage : Stage} {stages : List Stage}
    {q left : Query} {failure : Failure} (h : p.apply transport q stage = (left, some failure)) :
    p.processFrom transport number (stage :: stages) q =
      .error ⟨q.id, number, stage.name, failure⟩ := by
  rw [processFrom, h]

/-- `processFrom` lets a page through exactly if each stage in turn lets it `pass`. -/
theorem processFrom_eq_ok_iff {number : Nat} {stages : List Stage} {q q' : Query} :
    p.processFrom transport number stages q = .ok q' ↔
      stages.foldlM (p.pass transport) q = some q' := by
  induction stages generalizing number q with
  | nil => simp [processFrom]
  | cons stage stages ih =>
    rw [List.foldlM_cons]
    rcases applied : p.apply transport q stage with ⟨next, _ | failure⟩
    · rw [processFrom_of_apply applied, pass_of_apply applied]
      exact ih
    · rw [processFrom_of_apply_some applied, pass_of_apply_some applied]
      simp

/-- `processFrom` reports a page where it has passed the stages before and the next one fails on it. -/
theorem processFrom_eq_error_iff {number : Nat} {stages : List Stage} {q : Query}
    {f : StageFailure} :
    p.processFrom transport number stages q = .error f ↔
      ∃ (k : Nat) (h : k < stages.length) (reached left : Query) (failure : Failure),
        (stages.take k).foldlM (p.pass transport) q = some reached ∧
        p.apply transport reached stages[k] = (left, some failure) ∧
        f = ⟨q.id, number + k, stages[k].name, failure⟩ := by
  induction stages generalizing number q with
  | nil => simp [processFrom]
  | cons stage stages ih =>
    rcases applied : p.apply transport q stage with ⟨next, _ | failure⟩
    · rw [processFrom_of_apply applied, ih, id_of_apply applied]
      constructor
      · rintro ⟨k, h, reached, left, failure, before, here, rfl⟩
        refine ⟨k + 1, Nat.succ_lt_succ h, reached, left, failure, ?_, here, ?_⟩
        · rw [List.take_succ_cons, List.foldlM_cons, pass_of_apply applied]
          exact before
        · rw [Nat.add_assoc, Nat.add_comm 1 k, List.getElem_cons_succ]
      · rintro ⟨_ | k, h, reached, left, failure, before, here, rfl⟩
        · obtain rfl : q = reached := Option.some.inj before
          rw [List.getElem_cons_zero, applied] at here
          simp at here
        · rw [List.take_succ_cons, List.foldlM_cons, pass_of_apply applied] at before
          refine ⟨k, Nat.lt_of_succ_lt_succ h, reached, left, failure, before, here, ?_⟩
          rw [Nat.add_assoc, Nat.add_comm 1 k, List.getElem_cons_succ]
    · rw [processFrom_of_apply_some applied]
      constructor
      · intro ended
        exact ⟨0, Nat.succ_pos _, q, next, failure, rfl, applied, (Except.error.inj ended).symm⟩
      · rintro ⟨_ | k, h, reached, left, other, before, here, rfl⟩
        · obtain rfl : q = reached := Option.some.inj before
          rw [List.getElem_cons_zero, applied] at here
          obtain ⟨rfl, ⟨⟩⟩ := Prod.mk.inj here
          rfl
        · rw [List.take_succ_cons, List.foldlM_cons, pass_of_apply_some applied] at before
          simp at before

/-- What every stage leaves alone in a page, `processFrom` leaves alone. -/
theorem processFrom_keeps {γ : Type} (view : Query → γ) {number : Nat} {stages : List Stage}
    {q q' : Query}
    (keeps : ∀ stage ∈ stages, ∀ q, view (p.apply transport q stage).1 = view q)
    (h : p.processFrom transport number stages q = .ok q') : view q' = view q := by
  induction stages generalizing number q with
  | nil => rw [Except.ok.inj h]
  | cons stage stages ih =>
    have kept := keeps stage List.mem_cons_self q
    rcases applied : p.apply transport q stage with ⟨next, _ | failure⟩
    · rw [processFrom_of_apply applied] at h
      rw [applied] at kept
      exact (ih (fun stage later ↦ keeps stage (List.mem_cons_of_mem _ later)) h).trans kept
    · rw [processFrom_of_apply_some applied] at h
      cases h

/-! ## Part of the way -/

/-- What comes of a page: the page behind all stages, or the failure of one. -/
abbrev Result : Type := Except StageFailure Query

variable (p transport) in
/-- What comes of a page that has passed the first `k` stages. -/
def remainder (k : Nat) (q : Query) : Result :=
  p.processFrom transport (k + 1) (p.stages.drop k) q

theorem remainder_zero (q : Query) : p.remainder transport 0 q = p.process transport q := rfl

theorem remainder_length (q : Query) : p.remainder transport p.stages.length q = .ok q := by
  rw [remainder, List.drop_length]
  rfl

/-- The `remainder` of a page that stage `k` lets pass is that of the next stage. -/
theorem remainder_of_apply {k : Nat} (h : k < p.stages.length) {q next : Query}
    (applied : p.apply transport q p.stages[k] = (next, none)) :
    p.remainder transport k q = p.remainder transport (k + 1) next := by
  unfold remainder
  rw [List.drop_eq_getElem_cons h]
  exact processFrom_of_apply applied

/-- The `remainder` of a page on which stage `k` fails is the report of that. -/
theorem remainder_of_apply_some {k : Nat} (h : k < p.stages.length) {q left : Query}
    {failure : Failure} (applied : p.apply transport q p.stages[k] = (left, some failure)) :
    p.remainder transport k q = .error ⟨q.id, k + 1, p.stages[k].name, failure⟩ := by
  unfold remainder
  rw [List.drop_eq_getElem_cons h]
  exact processFrom_of_apply_some applied

/-- The number of the page of which a `Result` came. -/
def resultId : Result → Nat
  | .ok q => q.id
  | .error f => f.id

/-- `processFrom` keeps the number of a page. -/
theorem resultId_processFrom (number : Nat) (stages : List Stage) (q : Query) :
    resultId (p.processFrom transport number stages q) = q.id := by
  induction stages generalizing number q with
  | nil => rfl
  | cons stage stages ih =>
    rcases applied : p.apply transport q stage with ⟨next, _ | failure⟩
    · rw [processFrom_of_apply applied, ih, id_of_apply applied]
    · rw [processFrom_of_apply_some applied]
      rfl

@[simp] theorem resultId_remainder (k : Nat) (q : Query) :
    resultId (p.remainder transport k q) = q.id := resultId_processFrom _ _ q

/-- The `Result` under another number. -/
def numberedResult (n : Nat) : Result → Result
  | .ok q => .ok (q.numbered n)
  | .error f => .error { f with id := n }

/-- `processFrom` does the same with a page under any number. -/
theorem processFrom_numbered (n number : Nat) (stages : List Stage) (q : Query) :
    p.processFrom transport number stages (q.numbered n) =
      numberedResult n (p.processFrom transport number stages q) := by
  induction stages generalizing number q with
  | nil => rfl
  | cons stage stages ih =>
    have same := p.apply_numbered transport q n stage
    rcases applied : p.apply transport q stage with ⟨next, _ | failure⟩
    · rw [applied] at same
      rw [processFrom_of_apply applied, processFrom_of_apply same, ih]
    · rw [applied] at same
      rw [processFrom_of_apply_some applied, processFrom_of_apply_some same]
      rfl

variable (p transport) in
theorem process_numbered (n : Nat) (q : Query) :
    p.process transport (q.numbered n) = numberedResult n (p.process transport q) :=
  processFrom_numbered n 1 p.stages q

/-- `processFrom` goes on behind stages that a page passes. -/
theorem processFrom_append_of_ok {number : Nat} {first rest : List Stage} {q q' : Query}
    (h : p.processFrom transport number first q = .ok q') :
    p.processFrom transport number (first ++ rest) q =
      p.processFrom transport (number + first.length) rest q' := by
  induction first generalizing number q with
  | nil => rw [Except.ok.inj h, List.nil_append, List.length_nil, Nat.add_zero]
  | cons stage stages ih =>
    rcases applied : p.apply transport q stage with ⟨next, _ | failure⟩
    · rw [processFrom_of_apply applied] at h
      rw [List.cons_append, processFrom_of_apply applied, ih h, List.length_cons, Nat.add_assoc,
        Nat.add_comm 1]
    · rw [processFrom_of_apply_some applied] at h
      cases h

/-- `processFrom` ends with stages that report a page. -/
theorem processFrom_append_of_error {number : Nat} {first rest : List Stage} {q : Query}
    {f : StageFailure} (h : p.processFrom transport number first q = .error f) :
    p.processFrom transport number (first ++ rest) q = .error f := by
  induction first generalizing number q with
  | nil => cases h
  | cons stage stages ih =>
    rw [List.cons_append]
    rcases applied : p.apply transport q stage with ⟨next, _ | failure⟩
    · rw [processFrom_of_apply applied] at h ⊢
      exact ih h
    · rw [processFrom_of_apply_some applied] at h ⊢
      exact h

/-! ## Many pages -/

variable {urls : List String}

/-- `queriesFor` holds the addresses, each with its number. -/
theorem mem_queriesFor {q : Query} :
    q ∈ queriesFor urls ↔
      ∃ (i : Nat) (h : i < urls.length), q = { id := i + 1, rawUrl := urls[i] } := by
  unfold queriesFor
  rw [List.mem_map]
  constructor
  · rintro ⟨⟨url, i⟩, fed, rfl⟩
    obtain ⟨h, rfl⟩ := List.getElem?_eq_some_iff.1 (List.mk_mem_zipIdx_iff_getElem?.1 fed)
    exact ⟨i, h, rfl⟩
  · rintro ⟨i, h, rfl⟩
    exact ⟨(urls[i], i), List.mk_mem_zipIdx_iff_getElem?.2 (List.getElem?_eq_getElem h), rfl⟩

/-- `queriesFor` numbers the pages from 1. -/
theorem map_id_queriesFor : (queriesFor urls).map Query.id = List.range' 1 urls.length := by
  have numbers : urls.zipIdx.map Prod.snd = List.range' 0 urls.length := List.zipIdx_map_snd 0 urls
  calc (queriesFor urls).map Query.id
    _ = (urls.zipIdx.map Prod.snd).map (1 + ·) := by
      simp only [queriesFor, List.map_map, Function.comp_def, Nat.add_comm]
    _ = List.range' 1 urls.length := by rw [numbers, List.map_add_range']

variable (p transport) in
theorem map_resultId_process :
    ((queriesFor urls).map (p.process transport)).map resultId = List.range' 1 urls.length := by
  rw [← map_id_queriesFor, List.map_map]
  exact List.map_congr_left fun q _ ↦ resultId_remainder 0 q

/-- What comes of `queriesFor` under a number is what comes of the address with that number. -/
theorem mem_map_process {i : Nat} (h : i < urls.length) {result : Result} :
    result ∈ (queriesFor urls).map (p.process transport) ∧ resultId result = i + 1 ↔
      p.process transport { id := i + 1, rawUrl := urls[i] } = result := by
  rw [List.mem_map]
  constructor
  · rintro ⟨⟨q, fed, rfl⟩, number⟩
    obtain ⟨j, hj, rfl⟩ := mem_queriesFor.1 fed
    rw [← remainder_zero, resultId_remainder] at number
    obtain rfl : j = i := Nat.succ.inj number
    rfl
  · rintro rfl
    exact ⟨⟨_, mem_queriesFor.2 ⟨i, h, rfl⟩, rfl⟩, resultId_remainder 0 _⟩

/-- The failure of a `Result`, if it is one. -/
def failure? : Result → Option StageFailure
  | .error failure => some failure
  | .ok _ => none

/-- `run` splits what `process` makes of the pages in two. -/
theorem run_eq (queries : List Query) :
    p.run transport queries =
      ⟨(queries.map (p.process transport)).filterMap Except.toOption,
        (queries.map (p.process transport)).filterMap failure?⟩ := rfl

/-- `run` emits under a number the page that `process` lets through under it. -/
theorem mem_queries_run {i : Nat} (h : i < urls.length) {q : Query} :
    q ∈ (p.run transport (queriesFor urls)).queries ∧ q.id = i + 1 ↔
      p.process transport { id := i + 1, rawUrl := urls[i] } = .ok q := by
  rw [← mem_map_process h]
  refine and_congr_left fun _ ↦ ?_
  rw [run_eq, List.mem_filterMap]
  constructor
  · rintro ⟨_ | q', came, ⟨⟩⟩
    exact came
  · exact fun came ↦ ⟨_, came, rfl⟩

/-- `run` reports under a number the failure of `process` under it. -/
theorem mem_failures_run {i : Nat} (h : i < urls.length) {f : StageFailure} :
    f ∈ (p.run transport (queriesFor urls)).failures ∧ f.id = i + 1 ↔
      p.process transport { id := i + 1, rawUrl := urls[i] } = .error f := by
  rw [← mem_map_process h]
  refine and_congr_left fun _ ↦ ?_
  rw [run_eq, List.mem_filterMap]
  constructor
  · rintro ⟨f' | _, came, ⟨⟩⟩
    exact came
  · exact fun came ↦ ⟨_, came, rfl⟩

end Pipeline

end Gazette
