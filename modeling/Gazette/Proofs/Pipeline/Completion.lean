import Gazette.Proofs.Pipeline.Network
import Mathlib.Algebra.BigOperators.Group.Finset.Piecewise
import Mathlib.Data.Fintype.BigOperators

/-!
# Every run comes to an end

A pipeline at work can always take a `Pipeline.Step` until the collector is done (`completed_of_stuck`), and it
cannot take steps for ever: each of them leaves less to do, by the measure `Network.toil` (`Step.toil_lt`). So
however the parties take turns, in the end the collector is done.
-/

namespace Gazette

open Function

/-! ## What is left to do -/

namespace Network

variable {n : Nat}

/-- What is left to do for the pages in a channel: three steps for each stage behind it, and one for the
collector. -/
def channelToil (j : Fin (n + 1)) (pages : List Query) : Nat := pages.length * (3 * (n - j) + 1)

/-- What is left to do for a worker. -/
def workerToil (k : Fin n) : Activity → Nat
  | .waiting => 1
  | .working _ => 3 * (n - k) + 1
  | .passing _ => 3 * (n - k)
  | .reporting _ => 3
  | .gone => 0

/-- What is left to do in a state, by the steps that may still be taken. -/
def toil (net : Network n) : Nat :=
  net.feed.length * (3 * n + 2) + net.feeding.toNat + ∑ j, channelToil j (net.channel j) +
    ∑ k, workerToil k (net.worker k) + net.errors.length + net.errorsOpen.toNat +
    net.outputOpen.toNat

theorem channelToil_cons (j : Fin (n + 1)) (q : Query) (pages : List Query) :
    channelToil j (q :: pages) = channelToil j pages + (3 * (n - j) + 1) := by
  rw [channelToil, List.length_cons, Nat.succ_mul, channelToil]

theorem channelToil_concat (j : Fin (n + 1)) (q : Query) (pages : List Query) :
    channelToil j (pages ++ [q]) = channelToil j pages + (3 * (n - j) + 1) := by
  rw [channelToil, List.length_append, List.length_singleton, Nat.succ_mul, channelToil]

/-- A change at one index changes a sum of weights by what it changes there. -/
theorem sum_update {m : Nat} {α : Type} (weight : Fin m → α → Nat) (f : Fin m → α) (j : Fin m)
    (x : α) :
    ∑ i, weight i (update f j x i) + weight j (f j) = ∑ i, weight i (f i) + weight j x := by
  have others : ∑ i ∈ Finset.univ.erase j, weight i (update f j x i) =
      ∑ i ∈ Finset.univ.erase j, weight i (f i) :=
    Finset.sum_congr rfl fun i other ↦ by rw [update_of_ne (Finset.ne_of_mem_erase other)]
  rw [← Finset.add_sum_erase _ _ (Finset.mem_univ j), update_self,
    ← Finset.add_sum_erase _ (fun i ↦ weight i (f i)) (Finset.mem_univ j)]
  omega

/-- Only a worker that has ended has no `workerToil`. -/
theorem workerToil_pos (k : Fin n) {activity : Activity} (busy : activity ≠ .gone) :
    0 < workerToil k activity := by
  cases activity with
  | gone => exact absurd rfl busy
  | _ => simp only [workerToil]; omega

/-- A worker that ends leaves less `toil`, whatever it drops. -/
theorem toil_leave_lt {net : Network n} {k : Fin n} (busy : net.worker k ≠ .gone) :
    toil { net with
      channel := update net.channel k.castSucc []
      worker := update net.worker k .gone } < net.toil := by
  have dropped := sum_update channelToil net.channel k.castSucc []
  have ended := sum_update workerToil net.worker k .gone
  have before := workerToil_pos k busy
  rw [show channelToil k.castSucc [] = 0 from Nat.zero_mul _] at dropped
  rw [show workerToil k .gone = 0 from rfl] at ended
  simp only [toil]
  omega

end Network

namespace Pipeline

variable {p : Pipeline} {transport : Transport} {capacity : Nat} {urls : List String}
  {net net' : Network p.stages.length}

open Network in
/-- A `Step` leaves less `toil`. -/
theorem Step.toil_lt (h : p.Step transport capacity net net') : net'.toil < net.toil := by
  have channels := sum_update channelToil net.channel
  have workers := sum_update workerToil net.worker
  cases h with
  | @feed q rest live feeding next room heard =>
    have put := channels 0 (net.channel 0 ++ [q])
    rw [channelToil_concat] at put
    simp only [toil, next, List.length_cons, Nat.succ_mul, Fin.val_zero] at put ⊢
    omega
  | feedRefused live feeding next refused | feedAbandon cancelled feeding next =>
    simp only [toil, next, feeding, List.length_nil, List.length_cons, Bool.toNat_true,
      Bool.toNat_false]
    omega
  | feedEnd feeding fed =>
    simp only [toil, feeding, Bool.toNat_true, Bool.toNat_false]
    omega
  | @take q rest k live waiting next =>
    have taken := channels k.castSucc rest
    have held := workers k (.working q)
    rw [next, channelToil_cons] at taken
    simp only [toil, waiting, workerToil, Fin.val_castSucc] at taken held ⊢
    omega
  | stop k live waiting empty ended =>
    have ended := workers k .gone
    simp only [toil, waiting, workerToil] at ended ⊢
    omega
  | @apply q next k live working applied =>
    have passing := workers k (.passing next)
    simp only [toil, working, workerToil] at passing ⊢
    omega
  | @fail q left failure k live working applied =>
    have reporting := workers k (.reporting ⟨left.id, k + 1, p.stages[k].name, failure⟩)
    simp only [toil, working, workerToil] at reporting ⊢
    omega
  | @send q k live passing room heard =>
    have put := channels k.succ (net.channel k.succ ++ [q])
    have released := workers k .waiting
    rw [channelToil_concat] at put
    simp only [toil, passing, workerToil, Fin.val_succ] at put released ⊢
    omega
  | sendRefused k live passing refused => exact toil_leave_lt (by simp [passing])
  | abandon k cancelled busy => exact toil_leave_lt busy
  | report k live reporting room =>
    have released := workers k .waiting
    simp only [toil, reporting, workerToil, List.length_append, List.length_singleton] at released ⊢
    omega
  | @collect q rest opened next =>
    have taken := channels (Fin.last _) rest
    rw [next, channelToil_cons] at taken
    simp only [toil] at taken ⊢
    omega
  | collectFailure opened next =>
    simp only [toil, next, List.length_cons]
    omega
  | closeOutput opened empty ended =>
    simp only [toil, opened, Bool.toNat_true, Bool.toNat_false]
    omega
  | closeErrors opened empty ended =>
    simp only [toil, opened, Bool.toNat_true, Bool.toNat_false]
    omega

/-! ## There is always a step -/

section Stuck

variable (orderly : net.Orderly) (stuck : ∀ net', ¬ p.Step transport capacity net net')

include orderly stuck

/-- Where no `Step` can be taken, no failure waits to be collected. -/
theorem errors_of_stuck : net.errors = [] := by
  cases waiting : net.errors with
  | nil => rfl
  | cons failure rest =>
    cases opened : net.errorsOpen with
    | false =>
      have none := (orderly.errors opened).1
      simp [waiting] at none
    | true => exact absurd (.collectFailure opened waiting) (stuck _)

/-- Where no `Step` can be taken, a worker with an empty channel behind it has ended, or it waits for a page. -/
theorem worker_of_stuck (k : Fin p.stages.length) (empty : net.channel k.succ = []) :
    net.worker k = .gone ∨ net.worker k = .waiting ∧ net.cancelled = false := by
  by_cases gone : net.worker k = .gone
  · exact .inl gone
  cases live : net.cancelled with
  | true => exact absurd (.abandon k live gone) (stuck _)
  | false =>
    cases activity : net.worker k with
    | gone => exact .inl rfl
    | waiting => exact .inr ⟨rfl, rfl⟩
    | working q =>
      rcases applied : p.apply transport q p.stages[k] with ⟨next, _ | failure⟩
      · exact absurd (.apply k live activity applied) (stuck _)
      · exact absurd (.fail k live activity applied) (stuck _)
    | passing q =>
      by_cases refused : net.ReceiverGone k.succ
      · exact absurd (.sendRefused k live activity refused) (stuck _)
      · exact absurd (.send k live activity (by simp [empty]) refused) (stuck _)
    | reporting failure =>
      have errors := errors_of_stuck orderly stuck
      exact absurd (.report k live activity (by simp [errors])) (stuck _)

/-- Where no `Step` can be taken, no page waits in a channel: back to front, there is always somebody who would
take it. -/
theorem channel_of_stuck (j : Fin (p.stages.length + 1)) : net.channel j = [] := by
  -- Back to front: what holds up a worker is only what is behind it.
  induction j using Fin.reverseInduction with
  | last =>
    cases waiting : net.channel (Fin.last _) with
    | nil => rfl
    | cons q rest =>
      cases opened : net.outputOpen with
      | false =>
        have none := (orderly.output opened).1
        simp [waiting] at none
      | true => exact absurd (.collect opened waiting) (stuck _)
  | cast k behind =>
    rcases worker_of_stuck orderly stuck k behind with gone | ⟨idle, live⟩
    · exact (orderly.worker k gone).1
    · cases waiting : net.channel k.castSucc with
      | nil => rfl
      | cons q rest => exact absurd (.take k live idle waiting) (stuck _)

/-- Where no `Step` can be taken, all senders of channels have ended: one after the other, front to back. -/
theorem senderGone_of_stuck (j : Fin (p.stages.length + 1)) : net.SenderGone j := by
  have empty := channel_of_stuck orderly stuck
  induction j using Fin.induction with
  | zero =>
    cases feeding : net.feeding with
    | false => exact feeding
    | true =>
      cases next : net.feed with
      | nil => exact absurd (.feedEnd feeding next) (stuck _)
      | cons q rest =>
        cases live : net.cancelled with
        | true => exact absurd (.feedAbandon live feeding next) (stuck _)
        | false =>
          by_cases refused : net.ReceiverGone 0
          · exact absurd (.feedRefused live feeding next refused) (stuck _)
          · exact absurd (.feed live feeding next (by simp [empty 0]) refused) (stuck _)
  | succ k before =>
    rcases worker_of_stuck orderly stuck k (empty k.succ) with gone | ⟨idle, live⟩
    · exact gone
    · exact absurd (.stop k live idle (empty k.castSucc) before) (stuck _)

/-- An `Orderly` state in which no `Step` can be taken is `Completed`. -/
theorem completed_of_stuck : net.Completed := by
  have empty := channel_of_stuck orderly stuck
  have gone := senderGone_of_stuck orderly stuck
  constructor
  · cases opened : net.outputOpen with
    | false => rfl
    | true => exact absurd (.closeOutput opened (empty _) (gone _)) (stuck _)
  · cases opened : net.errorsOpen with
    | false => rfl
    | true =>
      have errors := errors_of_stuck orderly stuck
      exact absurd (.closeErrors opened errors fun k ↦ gone k.succ) (stuck _)

end Stuck

variable (p transport capacity) in
/-- From any `Orderly` state some steps lead to one that is `Completed`. -/
theorem exists_completed_of_orderly (orderly : net.Orderly) :
    ∃ net', Relation.ReflTransGen (p.Step transport capacity) net net' ∧ net'.Completed := by
  induction left : net.toil using Nat.strong_induction_on generalizing net with
  | _ left ih =>
    by_cases stuck : ∀ net', ¬ p.Step transport capacity net net'
    · exact ⟨net, .refl, completed_of_stuck orderly stuck⟩
    · obtain ⟨next, step⟩ := not_forall_not.1 stuck
      obtain ⟨net', run, completed⟩ := ih next.toil (left ▸ step.toil_lt) (step.orderly orderly) rfl
      exact ⟨net', .head step run, completed⟩

/-- From any `Reachable` state some steps lead to one that is `Completed`. -/
theorem Reachable.exists_completed (h : p.Reachable transport capacity urls net) :
    ∃ net', Relation.ReflTransGen (p.Step transport capacity) net net' ∧ net'.Completed :=
  exists_completed_of_orderly p transport capacity h.orderly

variable (p transport capacity) in
/-- No run of a `Step` after another goes on for ever. -/
theorem wellFounded_step :
    WellFounded fun net' net ↦ p.Step transport capacity net net' :=
  Subrelation.wf Step.toil_lt (measure Network.toil).wf

end Pipeline

end Gazette
