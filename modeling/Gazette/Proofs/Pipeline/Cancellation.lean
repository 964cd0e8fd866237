import Gazette.Proofs.Pipeline.Outcome

/-!
# Cancelled pipelines

The token of a pipeline may be cancelled at any time. `Pipeline.Event` is a `Pipeline.Step`, or that; the states
that come of such events are `Pipeline.Attainable`.

## Main results

- `Pipeline.Attainable.sum_results_le`: pages may be dropped, but nothing is ever made up. So no page is in two
  places (`Pipeline.Attainable.place_unique`), and what is collected at any time is part of what
  `Pipeline.run` makes of the pages (`Pipeline.Attainable.queries_sublist`,
  `Pipeline.Attainable.failures_sublist`).
- `Pipeline.Attainable.exists_completed`: a cancelled pipeline comes to an end as well.
- `Pipeline.outcome_of_cancelled`: what a cancelled pipeline leaves is what has been collected, and what waits
  in the two channels of the collector. `Pipeline.Attainable.size_le_of_cancelled` says how much that is at
  most.
- `Pipeline.sorted_outcome_under`: where the token is cancelled beforehand, or not at all, that is
  `Pipeline.runUnder`.
-/

namespace Gazette

/-- Cancelling the token keeps `Orderly`. -/
theorem Network.Orderly.cancel {n : Nat} {net : Network n} (h : net.Orderly) :
    Network.Orderly { net with cancelled := true } :=
  h.next h.feeder id (fun _ ↦ rfl) (fun _ ended ↦ ended) (fun _ empty _ ↦ empty)
    (fun _ ended ↦ .inl ended) .inl h.errors

namespace Pipeline

open Network

variable (p : Pipeline) (transport : Transport) (capacity : Nat)

/-- A step of one party, or that the token is cancelled. -/
inductive Event : Network p.stages.length → Network p.stages.length → Prop
  /-- A party takes a step. -/
  | step {net net'} (h : p.Step transport capacity net net') : Event net net'
  /-- The token is cancelled. -/
  | cancel {net} : Event net { net with cancelled := true }

/-- A state that comes of `start` by any number of `Event`s. -/
def Attainable (urls : List String) : Network p.stages.length → Prop :=
  Relation.ReflTransGen (p.Event transport capacity) (p.start urls)

variable {p transport capacity} {urls : List String} {net net' : Network p.stages.length}

/-! ## Tokens that may be cancelled -/

/-- What is `Reachable` under a token that nobody cancels is `Attainable`. -/
theorem Reachable.attainable (h : p.Reachable transport capacity urls net) :
    p.Attainable transport capacity urls net := Relation.ReflTransGen.mono (fun _ _ ↦ Event.step) _ _ h

/-- An `Event` keeps `Orderly`. -/
theorem Event.orderly (h : p.Event transport capacity net net') (orderly : net.Orderly) :
    net'.Orderly := by
  cases h with
  | step h => exact h.orderly orderly
  | cancel => exact orderly.cancel

/-- Every `Attainable` state is `Orderly`. -/
theorem Attainable.orderly (h : p.Attainable transport capacity urls net) : net.Orderly := by
  induction h with
  | refl => exact orderly_start
  | tail _ event ih => exact event.orderly ih

/-- From any `Attainable` state a pipeline can go on until the collector is done. By `wellFounded_step` it does so
however the parties take turns. -/
theorem Attainable.exists_completed (h : p.Attainable transport capacity urls net) :
    ∃ net', Relation.ReflTransGen (p.Step transport capacity) net net' ∧ net'.Completed :=
  exists_completed_of_orderly p transport capacity h.orderly

/-! ## What may be dropped -/

/-- Over all places an `Event` adds nothing to `results`. -/
theorem Event.sum_results_le (h : p.Event transport capacity net net') (orderly : net.Orderly) :
    ∑ place, p.results transport net' place ≤ ∑ place, p.results transport net place := by
  cases h with
  | step h =>
    rcases h.moves_or_drops orderly with moves | ⟨-, drops⟩
    · exact moves.sum_results.le
    · exact Finset.sum_le_sum fun place _ ↦ drops place
  | cancel => exact (congrArg Finset.univ.sum (funext fun place ↦ by cases place <;> rfl)).le

/-- Over all places of an `Attainable` state there is nothing but what `Pipeline.process` makes of the pages. -/
theorem Attainable.sum_results_le (h : p.Attainable transport capacity urls net) :
    ∑ place, p.results transport net place ≤
      (queriesFor urls : Multiset Query).map (p.process transport) := by
  induction h with
  | refl => exact sum_results_start.le
  | tail before event ih => exact (event.sum_results_le (Attainable.orderly before)).trans ih

/-- Over all places of an `Attainable` state there is each page at most once. -/
theorem Attainable.sum_count_le (h : p.Attainable transport capacity urls net) (id : Nat) :
    ∑ place, (net.ids place).count id ≤ 1 := by
  have sums := Multiset.map_le_map (f := resultId) h.sum_results_le
  rw [map_resultId_sum_results, Multiset.map_coe, Multiset.map_coe, map_resultId_process] at sums
  calc ∑ place, (net.ids place).count id
    _ = (∑ place, (net.ids place : Multiset Nat)).count id := sum_count_ids id
    _ ≤ (List.range' 1 urls.length : Multiset Nat).count id := Multiset.count_le_of_le id sums
    _ ≤ 1 := (Multiset.coe_count _ _).trans_le (List.nodup_iff_count_le_one.1 List.nodup_range' id)

/-- In an `Attainable` state a page that is in a place is there once, and in no other place. -/
theorem Attainable.place_unique (h : p.Attainable transport capacity urls net) {id : Nat}
    {place : Place p.stages.length} (here : id ∈ net.ids place) :
    (net.ids place).count id = 1 ∧ ∀ other ≠ place, id ∉ net.ids other :=
  notMem_of_sum_count_le (h.sum_count_le id) here

/-- What has been collected in an `Attainable` state is some of what `Pipeline.process` makes of the pages. -/
theorem Attainable.collected_subperm (h : p.Attainable transport capacity urls net) :
    (net.outcome.queries.map Except.ok ++ net.outcome.failures.map Except.error).Subperm
      ((queriesFor urls).map (p.process transport)) := by
  have collected := (Finset.single_le_sum (fun _ _ ↦ zero_le) (Finset.mem_univ Place.collector)).trans
    h.sum_results_le
  simpa only [results, Multiset.map_coe, Multiset.coe_add, Multiset.coe_le] using collected

/-- The pages that have been collected at any time are some of those that `Pipeline.run` emits. -/
theorem Attainable.queries_sublist (h : p.Attainable transport capacity urls net) :
    net.outcome.sorted.queries.Sublist (p.run transport (queriesFor urls)).queries := by
  have through := Multiset.filterMap_le_filterMap Except.toOption (Multiset.coe_le.2 h.collected_subperm)
  rw [Multiset.filterMap_coe, Multiset.filterMap_coe, Multiset.coe_le, filterMap_toOption_outcome] at through
  exact mergeSort_sublist_of_subperm Query.id through (queries_increasing p transport urls)

/-- The failures that have been collected at any time are some of those that `Pipeline.run` reports. -/
theorem Attainable.failures_sublist (h : p.Attainable transport capacity urls net) :
    net.outcome.sorted.failures.Sublist (p.run transport (queriesFor urls)).failures := by
  have failed := Multiset.filterMap_le_filterMap failure? (Multiset.coe_le.2 h.collected_subperm)
  rw [Multiset.filterMap_coe, Multiset.filterMap_coe, Multiset.coe_le, filterMap_failure?_outcome] at failed
  exact mergeSort_sublist_of_subperm StageFailure.id failed (failures_increasing p transport urls)

/-! ## What is left -/

/-- Once the token is cancelled, a `Step` puts nothing in front of the collector. -/
theorem Step.collected_of_cancelled (h : p.Step transport capacity net net')
    (cancelled : net.cancelled = true) :
    net'.outcome.queries ++ net'.channel (Fin.last _) =
        net.outcome.queries ++ net.channel (Fin.last _) ∧
      net'.outcome.failures ++ net'.errors = net.outcome.failures ++ net.errors := by
  cases h with
  | feed live | feedRefused live | take _ live | stop _ live | apply _ live | fail _ live
  | send _ live | sendRefused _ live | report _ live => simp [cancelled] at live
  | feedAbandon | feedEnd | closeOutput | closeErrors => exact ⟨rfl, rfl⟩
  | abandon k => simp [k.castSucc_lt_last.ne']
  | collect opened next => simp [next]
  | collectFailure opened next => simp [next]

/-- Once the token is cancelled, a `Step` of a worker is its last one. -/
theorem Step.worker_of_cancelled (h : p.Step transport capacity net net')
    (cancelled : net.cancelled = true) (k : Fin p.stages.length) :
    net'.worker k = net.worker k ∨ net'.worker k = .gone := by
  cases h with
  | feed live | feedRefused live | take _ live | stop _ live | apply _ live | fail _ live
  | send _ live | sendRefused _ live | report _ live => simp [cancelled] at live
  | feedAbandon | feedEnd | collect | collectFailure | closeOutput | closeErrors => exact .inl rfl
  | abandon i =>
    by_cases same : k = i
    · simp [same]
    · simp [same]

theorem cancelled_of_run (cancelled : net.cancelled = true)
    (run : Relation.ReflTransGen (p.Step transport capacity) net net') : net'.cancelled = true := by
  induction run with
  | refl => exact cancelled
  | tail _ step ih => exact step.cancelled_eq.trans ih

/-- Once the token is cancelled, a worker has what it had, or it has ended. -/
theorem worker_of_cancelled (cancelled : net.cancelled = true)
    (run : Relation.ReflTransGen (p.Step transport capacity) net net') (k : Fin p.stages.length) :
    net'.worker k = net.worker k ∨ net'.worker k = .gone := by
  induction run with
  | refl => exact .inl rfl
  | tail run step ih =>
    rcases step.worker_of_cancelled (cancelled_of_run cancelled run) k with same | gone
    · rwa [same]
    · exact .inr gone

/-- What a run from a cancelled state leaves is what had been collected there, and what waited in the two channels
of the collector. -/
theorem outcome_of_cancelled (orderly : net.Orderly) (cancelled : net.cancelled = true)
    (run : Relation.ReflTransGen (p.Step transport capacity) net net') (completed : net'.Completed) :
    net'.outcome =
      ⟨net.outcome.queries ++ net.channel (Fin.last _), net.outcome.failures ++ net.errors⟩ := by
  induction run using Relation.ReflTransGen.head_induction_on with
  | refl =>
    obtain ⟨channel, -, errors⟩ := orderly.empty_of_completed completed
    rw [(channel _).1, errors, List.append_nil, List.append_nil]
  | head step _ ih =>
    obtain ⟨pages, failures⟩ := step.collected_of_cancelled cancelled
    rw [ih (step.orderly orderly) (step.cancelled_eq.trans cancelled), pages, failures]

/-- No channel holds more items than `capacity`, or than one if that is 0. -/
def Bounded (capacity : Nat) (net : Network p.stages.length) : Prop :=
  (∀ j, (net.channel j).length ≤ max capacity 1) ∧ net.errors.length ≤ max capacity 1

theorem length_update_le {bound : Nat} (h : ∀ j, (net.channel j).length ≤ bound)
    {j : Fin (p.stages.length + 1)} {pages : List Query} (short : pages.length ≤ bound) :
    ∀ i, (Function.update net.channel j pages i).length ≤ bound :=
  (Function.forall_update_iff net.channel fun _ held ↦ held.length ≤ bound).2 ⟨short, fun i _ ↦ h i⟩

/-- A `Step` puts nothing where there is no room. -/
theorem Step.bounded (h : p.Step transport capacity net net') (bounded : Bounded capacity net) :
    Bounded capacity net' := by
  obtain ⟨channels, errors⟩ := bounded
  cases h with
  | feedRefused | feedAbandon | feedEnd | stop | apply | fail | closeOutput | closeErrors =>
    exact ⟨channels, errors⟩
  | feed live feeding next room heard =>
    exact ⟨length_update_le channels (by rw [List.length_append]; exact room), errors⟩
  | send k live passing room heard =>
    exact ⟨length_update_le channels (by rw [List.length_append]; exact room), errors⟩
  | take k live waiting next =>
    have before := channels k.castSucc
    rw [next] at before
    exact ⟨length_update_le channels (Nat.le_of_succ_le before), errors⟩
  | collect opened next =>
    have before := channels (Fin.last _)
    rw [next] at before
    exact ⟨length_update_le channels (Nat.le_of_succ_le before), errors⟩
  | sendRefused | abandon => exact ⟨length_update_le channels (Nat.zero_le _), errors⟩
  | report k live reporting room =>
    exact ⟨channels, by rw [List.length_append]; exact room⟩
  | collectFailure opened next =>
    rw [next] at errors
    exact ⟨channels, Nat.le_of_succ_le errors⟩

/-- Every `Attainable` state is `Bounded`. -/
theorem Attainable.bounded (h : p.Attainable transport capacity urls net) :
    Bounded capacity net := by
  induction h with
  | refl => exact ⟨fun _ ↦ Nat.zero_le _, Nat.zero_le _⟩
  | tail _ event ih =>
    cases event with
    | step h => exact h.bounded ih
    | cancel => exact ih

/-- Once the token is cancelled, no more is collected than the two channels of the collector hold. -/
theorem Attainable.size_le_of_cancelled (h : p.Attainable transport capacity urls net)
    (cancelled : net.cancelled = true)
    (run : Relation.ReflTransGen (p.Step transport capacity) net net') (completed : net'.Completed) :
    net'.outcome.size ≤ net.outcome.size + 2 * max capacity 1 := by
  obtain ⟨channels, errors⟩ := h.bounded
  have last := channels (Fin.last _)
  rw [outcome_of_cancelled h.orderly cancelled run completed]
  simp only [Outcome.size, List.length_append]
  omega

/-! ## Tokens that are cancelled beforehand -/

variable (p) in
/-- A pipeline before its work, under a token that is cancelled or not. -/
def startUnder (cancelled : Bool) (urls : List String) : Network p.stages.length :=
  { p.start urls with cancelled := cancelled }

/-- Under a token that is cancelled beforehand no worker ever has a page, so no stage is applied to any. -/
theorem worker_of_startUnder
    (run : Relation.ReflTransGen (p.Step transport capacity) (p.startUnder true urls) net)
    (k : Fin p.stages.length) : net.worker k = .waiting ∨ net.worker k = .gone :=
  worker_of_cancelled rfl run k

/-- Whether or not its token is cancelled beforehand, a run leaves in order what `Pipeline.runUnder` makes of the
pages. -/
theorem sorted_outcome_under {cancelled : Bool}
    (run : Relation.ReflTransGen (p.Step transport capacity) (p.startUnder cancelled urls) net)
    (completed : net.Completed) :
    net.outcome.sorted = p.runUnder cancelled transport (queriesFor urls) := by
  cases cancelled with
  | false => exact Reachable.sorted_outcome run completed
  | true =>
    have orderly : (p.startUnder true urls).Orderly := orderly_start.cancel
    rw [outcome_of_cancelled orderly rfl run completed]
    simp [startUnder, start, Outcome.sorted, runUnder]

end Pipeline

end Gazette
