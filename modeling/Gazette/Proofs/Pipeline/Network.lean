import Gazette.Proofs.Pipeline.Stages
import Mathlib.Data.Fin.Tuple.Basic
import Mathlib.Logic.Relation
import Mathlib.Tactic.DeriveFintype

/-!
# Pipelines at work

A pipeline has one worker for each stage, and all of them work at the same time. A feeder puts the pages into
the first channel; each worker takes pages from the channel in front of it and puts them into the one behind
it, unless its stage fails on them: then it reports the failure on the one channel that all workers share.
A collector takes pages from behind the last worker and failures from the shared channel until both are
closed. Channels keep their order and hold a bounded number of items.

All of them but the collector look at a token before anything they do. Once it is cancelled, the feeder and
the workers do nothing but end, and the pages that they have, or that wait in front of them, are dropped.

## Main definitions

- `Network`: a pipeline at work, with what each party is doing (`Activity`), what each channel holds, what
  has been collected (`Network.outcome`) and whether the token is cancelled (`Network.cancelled`).
- `Pipeline.Step`: one step of one party. No step touches the token.
- `Pipeline.Reachable`: the states that `Pipeline.start` comes to by such steps.
- `Network.Shut`: nothing is put into a channel any more.
- `Network.Orderly`: the invariant. Who has ended leaves an empty channel in front of it, into which nothing
  is put any more.

## Main results

- `Pipeline.Step.orderly`, `Pipeline.Reachable.orderly`: every step keeps the invariant, so it holds always.
- `Network.Orderly.empty_of_completed`: when the collector is done, no channel and no worker has anything.
-/

namespace Gazette

/-- What a worker is doing. -/
inductive Activity
  /-- It waits for a page. -/
  | waiting
  /-- It has taken a page. -/
  | working (q : Query)
  /-- It waits to put a page behind it. -/
  | passing (q : Query)
  /-- It waits to report a failure. -/
  | reporting (failure : StageFailure)
  /-- It has ended. -/
  | gone

/-- A pipeline of `n` stages at work. -/
structure Network (n : Nat) where
  /-- The pages that are still to be fed. -/
  feed : List Query
  /-- Whether the feeder has not ended. -/
  feeding : Bool := true
  /-- The channels. The one with a number is in front of the worker with that number; the last one is in
  front of the collector. -/
  channel : Fin (n + 1) → List Query := fun _ ↦ []
  /-- The workers. -/
  worker : Fin n → Activity := fun _ ↦ .waiting
  /-- The channel for failures. -/
  errors : List StageFailure := []
  /-- What has been collected. -/
  outcome : Outcome := ⟨[], []⟩
  /-- Whether the collector still waits for pages. -/
  outputOpen : Bool := true
  /-- Whether the collector still waits for failures. -/
  errorsOpen : Bool := true
  /-- Whether the token that the feeder and the workers look at is cancelled. -/
  cancelled : Bool := false

namespace Network

variable {n : Nat} (net : Network n)

/-- The party that puts pages into channel `j`, the feeder or worker `j - 1`, has ended. -/
def SenderGone : Fin (n + 1) → Prop :=
  Fin.cases (net.feeding = false) fun k ↦ net.worker k = .gone

/-- The party that takes pages from channel `j`, worker `j`, has ended. The collector does not end before all is
done. -/
def ReceiverGone : Fin (n + 1) → Prop :=
  Fin.lastCases False fun k ↦ net.worker k = .gone

/-- Nothing is put into a channel any more: the party that would do so has ended, or will do nothing else. -/
def Shut (j : Fin (n + 1)) : Prop := net.SenderGone j ∨ net.cancelled = true

/-- The collector is done: both its channels are closed. -/
def Completed : Prop := net.outputOpen = false ∧ net.errorsOpen = false

@[simp] theorem senderGone_zero : net.SenderGone 0 ↔ net.feeding = false := Iff.rfl

@[simp] theorem senderGone_succ (k : Fin n) : net.SenderGone k.succ ↔ net.worker k = .gone := Iff.rfl

@[simp] theorem receiverGone_last : net.ReceiverGone (Fin.last n) ↔ False := by
  simp [ReceiverGone]

@[simp] theorem receiverGone_castSucc (k : Fin n) :
    net.ReceiverGone k.castSucc ↔ net.worker k = .gone := by
  simp [ReceiverGone]

end Network

namespace Pipeline

variable (p : Pipeline) (transport : Transport) (capacity : Nat)

/-- A pipeline before its work on some addresses: all of `queriesFor` are to be fed, and every worker waits. -/
def start (urls : List String) : Network p.stages.length := { feed := queriesFor urls }

open Function in
/-- One step of one party. Channels hold `capacity` items, but at least one. The feeder and the workers look at
the token before whatever they wait for, so each of their steps but the last asks for one that is not
cancelled. -/
inductive Step : Network p.stages.length → Network p.stages.length → Prop
  /-- The feeder puts a page into the first channel. -/
  | feed {net q rest} (live : net.cancelled = false) (feeding : net.feeding = true)
      (next : net.feed = q :: rest) (room : (net.channel 0).length < max capacity 1)
      (heard : ¬ net.ReceiverGone 0) :
      Step net { net with feed := rest, channel := update net.channel 0 (net.channel 0 ++ [q]) }
  /-- The feeder gives up, for nobody takes its pages. -/
  | feedRefused {net q rest} (live : net.cancelled = false) (feeding : net.feeding = true)
      (next : net.feed = q :: rest) (refused : net.ReceiverGone 0) :
      Step net { net with feed := [], feeding := false }
  /-- The feeder finds the token cancelled and ends. What it has not fed is dropped. -/
  | feedAbandon {net q rest} (cancelled : net.cancelled = true) (feeding : net.feeding = true)
      (next : net.feed = q :: rest) :
      Step net { net with feed := [], feeding := false }
  /-- The feeder ends. -/
  | feedEnd {net} (feeding : net.feeding = true) (fed : net.feed = []) :
      Step net { net with feeding := false }
  /-- A worker takes a page. -/
  | take {net q rest} (k : Fin p.stages.length) (live : net.cancelled = false)
      (waiting : net.worker k = .waiting) (next : net.channel k.castSucc = q :: rest) :
      Step net { net with
        channel := update net.channel k.castSucc rest
        worker := update net.worker k (.working q) }
  /-- A worker ends, for no page can come any more. -/
  | stop {net} (k : Fin p.stages.length) (live : net.cancelled = false)
      (waiting : net.worker k = .waiting) (empty : net.channel k.castSucc = [])
      (ended : net.SenderGone k.castSucc) :
      Step net { net with worker := update net.worker k .gone }
  /-- The stage of a worker lets its page pass. -/
  | apply {net q next} (k : Fin p.stages.length) (live : net.cancelled = false)
      (working : net.worker k = .working q)
      (applied : p.apply transport q p.stages[k] = (next, none)) :
      Step net { net with worker := update net.worker k (.passing next) }
  /-- The stage of a worker fails on its page, which is given up. -/
  | fail {net q left failure} (k : Fin p.stages.length) (live : net.cancelled = false)
      (working : net.worker k = .working q)
      (applied : p.apply transport q p.stages[k] = (left, some failure)) :
      Step net { net with
        worker := update net.worker k (.reporting ⟨left.id, k + 1, p.stages[k].name, failure⟩) }
  /-- A worker puts a page behind it. -/
  | send {net q} (k : Fin p.stages.length) (live : net.cancelled = false)
      (passing : net.worker k = .passing q)
      (room : (net.channel k.succ).length < max capacity 1) (heard : ¬ net.ReceiverGone k.succ) :
      Step net { net with
        channel := update net.channel k.succ (net.channel k.succ ++ [q])
        worker := update net.worker k .waiting }
  /-- A worker gives up with its page, for nobody takes it. What waits in front of it is dropped too. -/
  | sendRefused {net q} (k : Fin p.stages.length) (live : net.cancelled = false)
      (passing : net.worker k = .passing q) (refused : net.ReceiverGone k.succ) :
      Step net { net with
        channel := update net.channel k.castSucc []
        worker := update net.worker k .gone }
  /-- A worker reports a failure. -/
  | report {net failure} (k : Fin p.stages.length) (live : net.cancelled = false)
      (reporting : net.worker k = .reporting failure)
      (room : net.errors.length < max capacity 1) :
      Step net { net with
        errors := net.errors ++ [failure]
        worker := update net.worker k .waiting }
  /-- A worker finds the token cancelled and ends, whatever it is doing. What it has is dropped, and so is what
  waits in front of it. -/
  | abandon {net} (k : Fin p.stages.length) (cancelled : net.cancelled = true)
      (busy : net.worker k ≠ .gone) :
      Step net { net with
        channel := update net.channel k.castSucc []
        worker := update net.worker k .gone }
  /-- The collector takes a page. -/
  | collect {net q rest} (opened : net.outputOpen = true)
      (next : net.channel (Fin.last _) = q :: rest) :
      Step net { net with
        channel := update net.channel (Fin.last _) rest
        outcome := { net.outcome with queries := net.outcome.queries ++ [q] } }
  /-- The collector takes a failure. -/
  | collectFailure {net failure rest} (opened : net.errorsOpen = true)
      (next : net.errors = failure :: rest) :
      Step net { net with
        errors := rest
        outcome := { net.outcome with failures := net.outcome.failures ++ [failure] } }
  /-- The collector learns that no page can come any more. -/
  | closeOutput {net} (opened : net.outputOpen = true) (empty : net.channel (Fin.last _) = [])
      (ended : net.SenderGone (Fin.last _)) :
      Step net { net with outputOpen := false }
  /-- The collector learns that no failure can come any more. -/
  | closeErrors {net} (opened : net.errorsOpen = true) (empty : net.errors = [])
      (ended : ∀ k, net.worker k = .gone) :
      Step net { net with errorsOpen := false }

/-- A state that comes of `start` by any number of `Step`s. -/
def Reachable (urls : List String) : Network p.stages.length → Prop :=
  Relation.ReflTransGen (p.Step transport capacity) (p.start urls)

end Pipeline

/-! ## Order among the parties -/

/-- The parties end one after the other: who has ended, has nothing left to do and nobody in front of it that
would give it more. -/
structure Network.Orderly {n : Nat} (net : Network n) : Prop where
  /-- A feeder that has ended has nothing left to feed. -/
  feeder : net.feeding = false → net.feed = []
  /-- A worker that has ended has an empty channel in front of it, and it stays empty. -/
  worker : ∀ k, net.worker k = .gone → net.channel k.castSucc = [] ∧ net.Shut k.castSucc
  /-- A collector that waits for no more pages has them all. -/
  output : net.outputOpen = false →
    net.channel (Fin.last n) = [] ∧ net.Shut (Fin.last n)
  /-- A collector that waits for no more failures has them all. -/
  errors : net.errorsOpen = false → net.errors = [] ∧ ∀ k, net.worker k = .gone

namespace Network

variable {n : Nat} {net net' : Network n}

/-- Under a token that is not cancelled, a channel is `Shut` only where its sender has ended. -/
theorem Shut.senderGone {j : Fin (n + 1)} (shut : net.Shut j) (live : net.cancelled = false) :
    net.SenderGone j := shut.resolve_right (by simp [live])

/-- A channel whose receiver has ended is `Shut`. -/
theorem Orderly.shut_of_receiverGone (h : net.Orderly) {j : Fin (n + 1)}
    (gone : net.ReceiverGone j) : net.Shut j := by
  induction j using Fin.lastCases with
  | last => simp at gone
  | cast k => exact (h.worker k ((net.receiverGone_castSucc k).1 gone)).2

/-- Under a token that is not cancelled, the receiver of a channel is at work while its sender is. -/
theorem Orderly.senderGone_of_receiverGone (h : net.Orderly) (live : net.cancelled = false)
    {j : Fin (n + 1)} (gone : net.ReceiverGone j) : net.SenderGone j :=
  (h.shut_of_receiverGone gone).senderGone live

theorem senderGone_of_imp (feeding : net.feeding = false → net'.feeding = false)
    (worker : ∀ k, net.worker k = .gone → net'.worker k = .gone) {j : Fin (n + 1)}
    (ended : net.SenderGone j) : net'.SenderGone j := by
  induction j using Fin.cases with
  | zero => exact feeding ended
  | succ k => exact worker k ended

/-- `Orderly` is kept if who has ended stays so, if the token stays cancelled, if nothing is put into an empty
channel that is `Shut`, and if a party ends only where that is in order. -/
theorem Orderly.next (h : net.Orderly) (feeder : net'.feeding = false → net'.feed = [])
    (feeding : net.feeding = false → net'.feeding = false)
    (cancelled : net.cancelled = true → net'.cancelled = true)
    (gone : ∀ k, net.worker k = .gone → net'.worker k = .gone)
    (channel : ∀ j, net.channel j = [] → net.Shut j → net'.channel j = [])
    (worker : ∀ k, net'.worker k = .gone →
      net.worker k = .gone ∨ net'.channel k.castSucc = [] ∧ net.Shut k.castSucc)
    (output : net'.outputOpen = false →
      net.outputOpen = false ∨ net.channel (Fin.last n) = [] ∧ net.Shut (Fin.last n))
    (errors : net'.errorsOpen = false → net'.errors = [] ∧ ∀ k, net'.worker k = .gone) :
    net'.Orderly := by
  have shut (j : Fin (n + 1)) (before : net.Shut j) : net'.Shut j :=
    before.imp (senderGone_of_imp feeding gone) cancelled
  have drained (j : Fin (n + 1)) (before : net.channel j = [] ∧ net.Shut j) :
      net'.channel j = [] ∧ net'.Shut j := ⟨channel j before.1 before.2, shut j before.2⟩
  refine ⟨feeder, fun k ended ↦ ?_, fun ended ↦ drained _ ?_, errors⟩
  · rcases worker k ended with before | ⟨empty, before⟩
    · exact drained _ (h.worker k before)
    · exact ⟨empty, shut _ before⟩
  · rcases output ended with before | before
    · exact h.output before
    · exact before

/-- `Orderly` is kept by parties that go on with their work. -/
theorem Orderly.next_of_gone_iff (h : net.Orderly) (feeding : net'.feeding = net.feeding)
    (cancelled : net'.cancelled = net.cancelled)
    (feed : net.feed = [] → net'.feed = [])
    (gone : ∀ k, net'.worker k = .gone ↔ net.worker k = .gone)
    (channel : ∀ j, net.channel j = [] → net.Shut j → net'.channel j = [])
    (output : net'.outputOpen = net.outputOpen) (errorsOpen : net'.errorsOpen = net.errorsOpen)
    (errors : net.errors = [] → (∀ k, net.worker k = .gone) → net'.errors = []) : net'.Orderly := by
  refine h.next (fun ended ↦ feed (h.feeder (feeding ▸ ended))) (fun ended ↦ feeding ▸ ended)
    (fun before ↦ cancelled ▸ before) (fun k ↦ (gone k).2) channel
    (fun k ended ↦ .inl ((gone k).1 ended)) (fun ended ↦ .inl (output ▸ ended)) fun ended ↦ ?_
  obtain ⟨none, all⟩ := h.errors (errorsOpen ▸ ended)
  exact ⟨errors none all, fun k ↦ (gone k).2 (all k)⟩

/-- A channel that holds a page, or that is not `Shut`, may change. -/
theorem update_channel_eq_nil {j : Fin (n + 1)} {pages : List Query}
    (busy : net.channel j = [] → ¬ net.Shut j) (i : Fin (n + 1))
    (empty : net.channel i = []) (shut : net.Shut i) :
    Function.update net.channel j pages i = [] := by
  have other : i ≠ j := by
    rintro rfl
    exact busy empty shut
  rw [Function.update_of_ne other, empty]

theorem update_worker_eq_gone_iff {k : Fin n} {activity : Activity} (before : net.worker k ≠ .gone)
    (after : activity ≠ .gone) (i : Fin n) :
    Function.update net.worker k activity i = .gone ↔ net.worker i = .gone := by
  by_cases same : i = k
  · subst same
    simp [before, after]
  · rw [Function.update_of_ne same]

/-- `Orderly` is kept by a worker that ends in front of a channel that is `Shut`, whatever it drops. -/
theorem Orderly.leave (h : net.Orderly) {k : Fin n} (busy : net.worker k ≠ .gone)
    (shut : net.Shut k.castSucc) :
    Orderly { net with
      channel := Function.update net.channel k.castSucc []
      worker := Function.update net.worker k .gone } := by
  refine h.next h.feeder id id (fun i gone ↦ ?_) (fun j empty _ ↦ ?_) (fun i gone ↦ ?_) .inl
    fun closed ↦ absurd ((h.errors closed).2 k) busy
  · by_cases same : i = k
    · simp [same]
    · simp [same, gone]
  · by_cases same : j = k.castSucc
    · simp [same]
    · simp [same, empty]
  · by_cases same : i = k
    · subst same
      exact .inr ⟨by simp, shut⟩
    · exact .inl (by simpa [same] using gone)

/-- In an `Orderly` state that is `Completed`, nothing is left in any channel or with any worker. -/
theorem Orderly.empty_of_completed (h : net.Orderly) (completed : net.Completed) :
    (∀ j, net.channel j = [] ∧ net.Shut j) ∧ (∀ k, net.worker k = .gone) ∧ net.errors = [] := by
  obtain ⟨noErrors, gone⟩ := h.errors completed.2
  have drained (j : Fin (n + 1)) : net.channel j = [] ∧ net.Shut j := by
    induction j using Fin.lastCases with
    | last => exact h.output completed.1
    | cast k => exact h.worker k (gone k)
  exact ⟨drained, gone, noErrors⟩

/-- In an `Orderly` state that is `Completed` under a token that is not cancelled, nothing is left to feed. -/
theorem Orderly.feed_of_completed (h : net.Orderly) (completed : net.Completed)
    (live : net.cancelled = false) : net.feed = [] :=
  h.feeder (((h.empty_of_completed completed).1 0).2.senderGone live)

end Network

namespace Pipeline

open Network

variable {p : Pipeline} {transport : Transport} {capacity : Nat} {urls : List String}
  {net net' : Network p.stages.length}

/-- `start` is `Orderly`. -/
theorem orderly_start : (p.start urls).Orderly where
  feeder ended := by simp [start] at ended
  worker k ended := by simp [start] at ended
  output ended := by simp [start] at ended
  errors ended := by simp [start] at ended

/-- A `Step` keeps `Network.cancelled`. -/
theorem Step.cancelled_eq (h : p.Step transport capacity net net') :
    net'.cancelled = net.cancelled := by cases h <;> rfl

/-- A `Step` keeps `Orderly`. -/
theorem Step.orderly (h : p.Step transport capacity net net') (orderly : net.Orderly) :
    net'.Orderly := by
  cases h with
  | feed live feeding next room heard =>
    refine orderly.next_of_gone_iff rfl rfl ?_ (fun _ ↦ Iff.rfl) (update_channel_eq_nil ?_) rfl rfl ?_
    · simp [next]
    · simp [Shut, feeding, live]
    · exact fun none _ ↦ none
  | feedRefused live feeding next refused =>
    have ended := orderly.senderGone_of_receiverGone live refused
    simp [feeding] at ended
  | feedAbandon cancelled feeding next =>
    exact orderly.next (fun _ ↦ rfl) (fun _ ↦ rfl) id (fun _ ended ↦ ended) (fun _ empty _ ↦ empty)
      (fun _ ended ↦ .inl ended) .inl orderly.errors
  | feedEnd feeding fed =>
    exact orderly.next (fun _ ↦ fed) (fun _ ↦ rfl) id (fun _ ended ↦ ended) (fun _ empty _ ↦ empty)
      (fun _ ended ↦ .inl ended) .inl orderly.errors
  | take k live waiting next =>
    refine orderly.next_of_gone_iff rfl rfl id (update_worker_eq_gone_iff ?_ ?_)
      (update_channel_eq_nil ?_) rfl rfl fun none _ ↦ none
    · simp [waiting]
    · simp
    · simp [next]
  | stop k live waiting empty ended =>
    -- The channel in front of it is empty as it is, so nothing is dropped.
    have left := orderly.leave (k := k) (by simp [waiting]) (.inl ended)
    rwa [← empty, Function.update_eq_self] at left
  | apply k live working applied =>
    refine orderly.next_of_gone_iff rfl rfl id (update_worker_eq_gone_iff ?_ ?_)
      (fun _ empty _ ↦ empty) rfl rfl fun none _ ↦ none
    · simp [working]
    · simp
  | fail k live working applied =>
    refine orderly.next_of_gone_iff rfl rfl id (update_worker_eq_gone_iff ?_ ?_)
      (fun _ empty _ ↦ empty) rfl rfl fun none _ ↦ none
    · simp [working]
    · simp
  | send k live passing room heard =>
    refine orderly.next_of_gone_iff rfl rfl id (update_worker_eq_gone_iff ?_ ?_)
      (update_channel_eq_nil ?_) rfl rfl fun none _ ↦ none
    · simp [passing]
    · simp
    · simp [Shut, passing, live]
  | sendRefused k live passing refused =>
    have ended := orderly.senderGone_of_receiverGone live refused
    simp [passing] at ended
  | report k live reporting room =>
    refine orderly.next_of_gone_iff rfl rfl id (update_worker_eq_gone_iff ?_ ?_)
      (fun _ empty _ ↦ empty) rfl rfl fun _ all ↦ ?_
    · simp [reporting]
    · simp
    · simp [all k] at reporting
  | abandon k cancelled busy => exact orderly.leave busy (.inr cancelled)
  | collect opened next =>
    refine orderly.next_of_gone_iff rfl rfl id (fun _ ↦ Iff.rfl) (update_channel_eq_nil ?_) rfl rfl
      fun none _ ↦ none
    simp [next]
  | collectFailure opened next =>
    refine orderly.next_of_gone_iff rfl rfl id (fun _ ↦ Iff.rfl) (fun _ empty _ ↦ empty) rfl rfl
      fun none _ ↦ ?_
    simp [next] at none
  | closeOutput opened empty ended =>
    exact orderly.next orderly.feeder id id (fun _ ended ↦ ended) (fun _ empty _ ↦ empty)
      (fun _ ended ↦ .inl ended) (fun _ ↦ .inr ⟨empty, .inl ended⟩) orderly.errors
  | closeErrors opened empty ended =>
    exact orderly.next orderly.feeder id id (fun _ ended ↦ ended) (fun _ empty _ ↦ empty)
      (fun _ ended ↦ .inl ended) .inl fun _ ↦ ⟨empty, ended⟩

/-- Every `Reachable` state is `Orderly`. -/
theorem Reachable.orderly (h : p.Reachable transport capacity urls net) : net.Orderly := by
  induction h with
  | refl => exact orderly_start
  | tail _ step ih => exact step.orderly ih

/-- In a `Reachable` state the token is not cancelled. -/
theorem Reachable.live (h : p.Reachable transport capacity urls net) : net.cancelled = false := by
  induction h with
  | refl => rfl
  | tail _ step ih => exact step.cancelled_eq.trans ih

end Pipeline

end Gazette
