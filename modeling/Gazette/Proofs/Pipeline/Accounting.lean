import Gazette.Proofs.Pipeline.Network
import Mathlib.Algebra.BigOperators.Group.Finset.Piecewise
import Mathlib.Algebra.Order.BigOperators.Group.Finset
import Mathlib.Data.Fintype.Sum

/-!
# No page is lost

Wherever a page is in a pipeline at work (`Place`), what will come of it is settled by the stages that it has
not yet passed. `Pipeline.results` says so for all pages in a place. A `Pipeline.Step` moves it from one place
to another and changes nothing about it (`Step.moves`), so over all places it stays what `Pipeline.process`
makes of the pages that were fed (`Reachable.sum_results`). In particular each page is in exactly one place at
any time (`Reachable.exists_place`), and once the collector is done it has exactly what comes of each page taken
for itself (`Reachable.results_of_completed`).

Only under a token that is cancelled does a step drop pages: `Step.moves_or_drops`.
-/

namespace Gazette

/-- Where pages are in a pipeline of `n` stages at work. -/
inductive Place (n : Nat)
  /-- Still to be fed. -/
  | feeder
  /-- In a channel. -/
  | channel (j : Fin (n + 1))
  /-- With a worker. -/
  | worker (k : Fin n)
  /-- Reported. -/
  | errors
  /-- Collected. -/
  | collector
deriving DecidableEq, Fintype

/-- The numbers of the pages that a worker holds. -/
def Activity.ids : Activity → List Nat
  | waiting | gone => []
  | working q | passing q => [q.id]
  | reporting failure => [failure.id]

/-- The numbers of the pages in a place. -/
def Network.ids {n : Nat} (net : Network n) : Place n → List Nat
  | .feeder => net.feed.map Query.id
  | .channel j => (net.channel j).map Query.id
  | .worker k => (net.worker k).ids
  | .errors => net.errors.map StageFailure.id
  | .collector => net.outcome.queries.map Query.id ++ net.outcome.failures.map StageFailure.id

namespace Pipeline

variable {p : Pipeline} {transport : Transport} {capacity : Nat} {urls : List String}
  {net net' : Network p.stages.length}

/-! ## What will come of the pages -/

variable (p transport) in
/-- What will come of the page that worker `k` holds, by `Pipeline.remainder`. -/
def activityResults (k : Nat) : Activity → Multiset Result
  | .waiting | .gone => 0
  | .working q => {p.remainder transport k q}
  | .passing q => {p.remainder transport (k + 1) q}
  | .reporting failure => {.error failure}

variable (p transport) in
/-- What will come of the pages in a place, by `Pipeline.remainder`. -/
def results (net : Network p.stages.length) : Place p.stages.length → Multiset Result
  | .feeder => (net.feed : Multiset Query).map (p.process transport)
  | .channel j => (net.channel j : Multiset Query).map (p.remainder transport j)
  | .worker k => p.activityResults transport k (net.worker k)
  | .errors => (net.errors : Multiset StageFailure).map .error
  | .collector =>
    (net.outcome.queries : Multiset Query).map .ok +
      (net.outcome.failures : Multiset StageFailure).map .error

/-- The `results` in a place bear the numbers of the pages there. -/
theorem map_resultId_results (place : Place p.stages.length) :
    (p.results transport net place).map resultId = (net.ids place : Multiset Nat) := by
  cases place with
  | feeder => simp [results, Network.ids, ← remainder_zero, Function.comp_def]
  | channel j => simp [results, Network.ids, Function.comp_def]
  | worker k =>
    simp only [results, Network.ids]
    cases net.worker k with
    | waiting => rfl
    | working q => simp [activityResults, Activity.ids]
    | passing q => simp [activityResults, Activity.ids]
    | reporting failure => rfl
    | gone => rfl
  | errors => simp [results, Network.ids, Function.comp_def, resultId]
  | collector => simp [results, Network.ids, Function.comp_def, resultId]

/-! ## One step -/

theorem map_coe_cons {α β : Type} (f : α → β) (x : α) (l : List α) :
    ((x :: l : List α) : Multiset α).map f = (l : Multiset α).map f + {f x} := by
  rw [← Multiset.cons_coe, Multiset.map_cons, ← Multiset.singleton_add, add_comm]

theorem map_coe_concat {α β : Type} (f : α → β) (x : α) (l : List α) :
    ((l ++ [x] : List α) : Multiset α).map f = (l : Multiset α).map f + {f x} := by
  rw [← Multiset.coe_add, Multiset.map_add, Multiset.coe_singleton, Multiset.map_singleton]

open Function

/-- A page that is taken is missing in its channel, and the other channels stay. -/
theorem results_taken {j : Fin (p.stages.length + 1)} {q : Query} {rest : List Query}
    (next : net.channel j = q :: rest) (i : Fin (p.stages.length + 1)) :
    (update net.channel j rest i : Multiset Query).map (p.remainder transport i) +
        (if Place.channel i = Place.channel j then {p.remainder transport j q} else 0) =
      (net.channel i : Multiset Query).map (p.remainder transport i) := by
  by_cases same : i = j
  · rw [same, update_self, if_pos rfl, next, map_coe_cons]
  · rw [update_of_ne same, if_neg (mt Place.channel.inj same), add_zero]

/-- A page that is put is one more in its channel, and the other channels stay. -/
theorem results_put (j : Fin (p.stages.length + 1)) (q : Query) (i : Fin (p.stages.length + 1)) :
    (update net.channel j (net.channel j ++ [q]) i : Multiset Query).map (p.remainder transport i) =
      (net.channel i : Multiset Query).map (p.remainder transport i) +
        if Place.channel i = Place.channel j then {p.remainder transport j q} else 0 := by
  by_cases same : i = j
  · rw [same, update_self, if_pos rfl, map_coe_concat]
  · rw [update_of_ne same, if_neg (mt Place.channel.inj same), add_zero]

/-- A worker that waits again has given away what it held, and the other workers stay. -/
theorem results_released (k i : Fin p.stages.length) :
    p.activityResults transport i (update net.worker k .waiting i) +
        (if Place.worker i = Place.worker k then
          p.activityResults transport k (net.worker k) else 0) =
      p.activityResults transport i (net.worker i) := by
  by_cases same : i = k
  · rw [same, update_self, if_pos rfl]
    exact zero_add _
  · rw [update_of_ne same, if_neg (mt Place.worker.inj same), add_zero]

/-- A worker that waited holds what it has been given, and the other workers stay. -/
theorem results_held {k : Fin p.stages.length} (waiting : net.worker k = .waiting)
    (activity : Activity) (i : Fin p.stages.length) :
    p.activityResults transport i (update net.worker k activity i) =
      p.activityResults transport i (net.worker i) +
        if Place.worker i = Place.worker k then p.activityResults transport k activity else 0 := by
  by_cases same : i = k
  · rw [same, update_self, if_pos rfl, waiting]
    exact (zero_add _).symm
  · rw [update_of_ne same, if_neg (mt Place.worker.inj same), add_zero]

/-- A worker that goes on with its page keeps `results` if it keeps its own `activityResults`. -/
theorem results_update_worker (k : Fin p.stages.length) {activity : Activity}
    (h : p.activityResults transport k activity =
      p.activityResults transport k (net.worker k)) :
    p.results transport { net with worker := update net.worker k activity } =
      p.results transport net := by
  funext place
  cases place with
  | worker i =>
    by_cases same : i = k
    · rw [same]
      simpa [results] using h
    · simp [results, same]
  | _ => rfl

variable (p transport) in
/-- Some `results` move from one place to another, and nothing else changes. -/
def Moves (net net' : Network p.stages.length) : Prop :=
  ∃ (source target : Place p.stages.length) (moved : Multiset Result), ∀ place,
    p.results transport net' place + (if place = source then moved else 0) =
      p.results transport net place + if place = target then moved else 0

theorem moves_of_results_eq (h : p.results transport net' = p.results transport net) :
    p.Moves transport net net' := ⟨.collector, .collector, 0, fun place ↦ by rw [h]⟩

variable (p transport) in
/-- Some `results` are given up, and nothing else changes. -/
def Drops (net net' : Network p.stages.length) : Prop :=
  ∀ place, p.results transport net' place ≤ p.results transport net place

/-- A feeder that ends `Drops` no more than what it has not fed. -/
theorem drops_feed : p.Drops transport net { net with feed := [], feeding := false } := by
  intro place
  cases place with
  | feeder => exact zero_le
  | _ => exact le_rfl

/-- A worker that ends `Drops` no more than what it has and what waits in front of it. -/
theorem drops_leave (k : Fin p.stages.length) :
    p.Drops transport net { net with
      channel := update net.channel k.castSucc []
      worker := update net.worker k .gone } := by
  intro place
  cases place with
  | channel i =>
    by_cases same : i = k.castSucc
    · simp [results, same]
    · simp [results, same]
  | worker i =>
    by_cases same : i = k
    · simp [results, same, activityResults]
    · simp [results, same]
  | _ => exact le_rfl

/-- A `Step` moves what will come of one page, or of none, unless it finds the token cancelled: then it may drop
some. -/
theorem Step.moves_or_drops (h : p.Step transport capacity net net') (orderly : net.Orderly) :
    p.Moves transport net net' ∨ net.cancelled = true ∧ p.Drops transport net net' := by
  cases h with
  | feedAbandon cancelled feeding next => exact .inr ⟨cancelled, drops_feed⟩
  | abandon k cancelled busy => exact .inr ⟨cancelled, drops_leave k⟩
  | @feed q rest live feeding next room heard =>
    left
    refine ⟨.feeder, .channel 0, {p.remainder transport 0 q}, fun place ↦ ?_⟩
    cases place with
    | feeder =>
      simp only [results, next, map_coe_cons, reduceIte, reduceCtorEq, add_zero, remainder_zero]
    | channel i =>
      simp only [results, reduceIte, reduceCtorEq, add_zero]
      exact results_put 0 q i
    | _ => rfl
  | feedRefused live feeding next refused =>
    -- Who takes pages does not end before who puts them, so this never happens.
    have ended := orderly.senderGone_of_receiverGone live refused
    simp [feeding] at ended
  | feedEnd feeding fed => exact .inl (moves_of_results_eq rfl)
  | @take q rest k live waiting next =>
    left
    refine ⟨.channel k.castSucc, .worker k, {p.remainder transport k q}, fun place ↦ ?_⟩
    cases place with
    | channel i =>
      simp only [results, reduceIte, reduceCtorEq, add_zero]
      exact results_taken next i
    | worker i =>
      simp only [results, reduceIte, reduceCtorEq, add_zero]
      exact results_held waiting (.working q) i
    | _ => rfl
  | stop k live waiting empty ended =>
    refine .inl (moves_of_results_eq (results_update_worker k ?_))
    rw [waiting]
    rfl
  | apply k live working applied =>
    refine .inl (moves_of_results_eq (results_update_worker k ?_))
    simp only [working, activityResults, remainder_of_apply k.2 applied]
  | fail k live working applied =>
    refine .inl (moves_of_results_eq (results_update_worker k ?_))
    simp only [working, activityResults, id_of_apply applied, remainder_of_apply_some k.2 applied]
    rfl
  | @send q k live passing room heard =>
    left
    refine ⟨.worker k, .channel k.succ, {p.remainder transport (k + 1) q}, fun place ↦ ?_⟩
    cases place with
    | channel i =>
      simp only [results, reduceIte, reduceCtorEq, add_zero]
      exact results_put k.succ q i
    | worker i =>
      simp only [results, reduceIte, reduceCtorEq, add_zero]
      rw [← results_released k i, passing]
      rfl
    | _ => rfl
  | sendRefused k live passing refused =>
    have ended := orderly.senderGone_of_receiverGone live refused
    simp [passing] at ended
  | @report failure k live reporting room =>
    left
    refine ⟨.worker k, .errors, {.error failure}, fun place ↦ ?_⟩
    cases place with
    | worker i =>
      simp only [results, reduceIte, reduceCtorEq, add_zero]
      rw [← results_released k i, reporting]
      rfl
    | errors => simp only [results, map_coe_concat, reduceIte, reduceCtorEq, add_zero]
    | _ => rfl
  | @collect q rest opened next =>
    left
    refine ⟨.channel (Fin.last _), .collector, {p.remainder transport p.stages.length q},
      fun place ↦ ?_⟩
    cases place with
    | channel i =>
      simp only [results, reduceIte, reduceCtorEq, add_zero]
      exact results_taken next i
    | collector =>
      simp only [results, map_coe_concat, reduceIte, reduceCtorEq, add_zero, remainder_length]
      rw [add_right_comm]
    | _ => rfl
  | @collectFailure failure rest opened next =>
    left
    refine ⟨.errors, .collector, {.error failure}, fun place ↦ ?_⟩
    cases place with
    | errors => simp only [results, next, map_coe_cons, reduceIte, reduceCtorEq, add_zero]
    | collector =>
      simp only [results, map_coe_concat, reduceIte, reduceCtorEq, add_zero]
      rw [add_assoc]
    | _ => rfl
  | closeOutput opened empty ended => exact .inl (moves_of_results_eq rfl)
  | closeErrors opened empty ended => exact .inl (moves_of_results_eq rfl)

/-- Under a token that is not cancelled, a `Step` moves what will come of one page, or of none. -/
theorem Step.moves (h : p.Step transport capacity net net') (orderly : net.Orderly)
    (live : net.cancelled = false) : p.Moves transport net net' :=
  (h.moves_or_drops orderly).resolve_right (by simp [live])

/-! ## All steps -/

/-- What `Moves` stays over all places. -/
theorem Moves.sum_results (h : p.Moves transport net net') :
    ∑ place, p.results transport net' place = ∑ place, p.results transport net place := by
  obtain ⟨source, target, moved, h⟩ := h
  have sums := Finset.sum_congr (rfl : Finset.univ = Finset.univ) fun place _ ↦ h place
  simpa [Finset.sum_add_distrib] using sums

/-- In `Pipeline.start` all pages are still to be fed. -/
theorem sum_results_start :
    ∑ place, p.results transport (p.start urls) place =
      (queriesFor urls : Multiset Query).map (p.process transport) := by
  refine Finset.sum_eq_single Place.feeder (fun place _ other ↦ ?_) (by simp)
  cases place with
  | feeder => exact absurd rfl other
  | _ => rfl

/-- Over all places of a `Reachable` state there is what `Pipeline.process` makes of the pages. -/
theorem Reachable.sum_results (h : p.Reachable transport capacity urls net) :
    ∑ place, p.results transport net place =
      (queriesFor urls : Multiset Query).map (p.process transport) := by
  induction h with
  | refl => exact sum_results_start
  | tail before step ih =>
    exact (step.moves (Reachable.orderly before) (Reachable.live before)).sum_results.trans ih

/-- In a `Reachable` state that is `Completed`, the collector has what `Pipeline.process` makes of the pages. -/
theorem Reachable.results_of_completed (h : p.Reachable transport capacity urls net)
    (completed : net.Completed) :
    p.results transport net .collector =
      (queriesFor urls : Multiset Query).map (p.process transport) := by
  obtain ⟨channel, worker, errors⟩ := h.orderly.empty_of_completed completed
  have feed := h.orderly.feed_of_completed completed h.live
  rw [← h.sum_results]
  refine (Finset.sum_eq_single Place.collector (fun place _ other ↦ ?_) (by simp)).symm
  cases place with
  | feeder => simp [results, feed]
  | channel j => simp [results, (channel j).1]
  | worker k => simp [results, worker k, activityResults]
  | errors => simp [results, errors]
  | collector => exact absurd rfl other

/-! ## Numbers -/

/-- Over all places the `results` bear the numbers of the pages there. -/
theorem map_resultId_sum_results :
    (∑ place, p.results transport net place).map resultId = ∑ place, (net.ids place : Multiset Nat) := by
  rw [← Multiset.coe_mapAddMonoidHom, map_sum]
  simp only [Multiset.coe_mapAddMonoidHom, map_resultId_results]

theorem sum_count_ids (id : Nat) :
    ∑ place, (net.ids place).count id = (∑ place, (net.ids place : Multiset Nat)).count id := by
  simp only [Multiset.count_sum', Multiset.coe_count]

/-- Over all places of a `Reachable` state there is each page once. -/
theorem Reachable.sum_ids (h : p.Reachable transport capacity urls net) :
    ∑ place, (net.ids place : Multiset Nat) = (List.range' 1 urls.length : Multiset Nat) := by
  have sums := congrArg (Multiset.map resultId) h.sum_results
  rwa [map_resultId_sum_results, Multiset.map_coe, Multiset.map_coe, map_resultId_process] at sums

/-- A number that is at most once in all places is once where it is, and in no other place. -/
theorem notMem_of_sum_count_le {id : Nat} (once : ∑ place, (net.ids place).count id ≤ 1)
    {place : Place p.stages.length} (here : id ∈ net.ids place) :
    (net.ids place).count id = 1 ∧ ∀ other ≠ place, id ∉ net.ids other := by
  have least := List.count_pos_iff.2 here
  rw [← Finset.add_sum_erase _ _ (Finset.mem_univ place)] at once
  refine ⟨by omega, fun other different ↦ ?_⟩
  have elsewhere : ∑ place ∈ Finset.univ.erase place, (net.ids place).count id = 0 := by omega
  have none := Finset.sum_eq_zero_iff.1 elsewhere other (by simp [different])
  exact List.count_eq_zero.1 none

/-- In a `Reachable` state each page that was fed is once in one place, and in no other. -/
theorem Reachable.exists_place (h : p.Reachable transport capacity urls net) {id : Nat}
    (least : 1 ≤ id) (most : id ≤ urls.length) :
    ∃ place, (net.ids place).count id = 1 ∧ ∀ other ≠ place, id ∉ net.ids other := by
  have once : ∑ place, (net.ids place).count id = 1 := by
    have member : id ∈ List.range' 1 urls.length := List.mem_range'_1.2 ⟨least, by omega⟩
    rw [sum_count_ids, h.sum_ids, Multiset.coe_count]
    exact List.count_eq_one_of_mem List.nodup_range' member
  obtain ⟨place, -, here⟩ := Finset.exists_ne_zero_of_sum_ne_zero (once.trans_ne one_ne_zero)
  exact ⟨place, notMem_of_sum_count_le once.le (List.count_pos_iff.1 (Nat.pos_of_ne_zero here))⟩

end Pipeline

end Gazette
