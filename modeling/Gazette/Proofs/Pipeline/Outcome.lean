import Gazette.CommandLine.Run
import Gazette.Proofs.Client.Agreement
import Gazette.Proofs.Pipeline.Accounting
import Gazette.Proofs.Pipeline.Completion

/-!
# Outcomes in order

Pages and failures are collected as they come. Put in the order of their numbers (`Outcome.sorted`) they are
what `Pipeline.run` makes of the pages one after the other (`Reachable.sorted_outcome`), however the parties
took turns and whatever the channels hold. So is the report of the command line, `Report.ofOutcome`, which is
made of them in that order.
-/

namespace Gazette

/-- An outcome in the order of the numbers of its pages. -/
def Outcome.sorted (o : Outcome) : Outcome where
  queries := o.queries.mergeSort fun a b ↦ a.id ≤ b.id
  failures := o.failures.mergeSort fun a b ↦ a.id ≤ b.id

/-- The report on fetched pages, once their records are made. -/
def Report.ofOutcome (a : Arguments) (o : Outcome) : Report where
  code := if o.failures.isEmpty then 0 else 1
  out := written a (o.queries.filterMap Query.article)
  err := Text.concat (o.failures.map fun failure ↦ line ("error: " ++ failure.message))

/-- What is left of a list in which each key stands once is, when it is sorted, what is left of that list when it
is sorted. -/
theorem mergeSort_sublist_of_subperm {α : Type} (key : α → Nat) {l sorted : List α}
    (taken : l.Subperm sorted) (increasing : sorted.Pairwise fun a b ↦ key a < key b) :
    (l.mergeSort fun a b ↦ key a ≤ key b).Sublist sorted := by
  have perm := List.mergeSort_perm l fun a b ↦ key a ≤ key b
  have part : (l.mergeSort fun a b ↦ key a ≤ key b).Subperm sorted := perm.subperm.trans taken
  have ordered : (l.mergeSort fun a b ↦ key a ≤ key b).Pairwise
      fun a b ↦ decide (key a ≤ key b) = true :=
    List.pairwise_mergeSort (by grind) (by grind) l
  have once : ((l.mergeSort fun a b ↦ key a ≤ key b).map key).Nodup := by
    obtain ⟨l', same, sub⟩ := part
    have nodup := ((List.pairwise_map.2 increasing).imp Nat.ne_of_lt).sublist (sub.map key)
    exact (same.map key).nodup nodup
  have strict : (l.mergeSort fun a b ↦ key a ≤ key b).Pairwise fun a b ↦ key a < key b :=
    (List.pairwise_map.1 once).imp₂ (fun _ _ other le ↦ lt_of_le_of_ne le other)
      (ordered.imp of_decide_eq_true)
  have : Std.Antisymm fun a b : α ↦ key a < key b :=
    ⟨fun _ _ ab ba ↦ absurd ba (Nat.lt_asymm ab)⟩
  exact List.sublist_of_subperm_of_pairwise part strict increasing

/-- A list in the order of keys, each of which stands once, is what `List.mergeSort` makes of any list of the same
elements. -/
theorem mergeSort_eq_of_perm {α : Type} (key : α → Nat) {l sorted : List α} (perm : l.Perm sorted)
    (increasing : sorted.Pairwise fun a b ↦ key a < key b) :
    l.mergeSort (fun a b ↦ key a ≤ key b) = sorted := by
  refine (mergeSort_sublist_of_subperm key perm.subperm increasing).eq_of_length ?_
  rw [List.length_mergeSort, perm.length_eq]

namespace Pipeline

variable {p : Pipeline} {transport : Transport} {capacity : Nat} {urls : List String}
  {net : Network p.stages.length}

variable (p transport urls) in
/-- What `Pipeline.process` makes of `queriesFor` comes in the order of the numbers. -/
theorem results_increasing :
    ((queriesFor urls).map (p.process transport)).Pairwise fun a b ↦ resultId a < resultId b := by
  rw [← List.pairwise_map, map_resultId_process]
  exact List.pairwise_lt_range'

variable (p transport urls) in
/-- The pages that `Pipeline.run` emits come in the order of their numbers. -/
theorem queries_increasing :
    (p.run transport (queriesFor urls)).queries.Pairwise fun a b ↦ a.id < b.id := by
  rw [run_eq]
  refine (results_increasing p transport urls).filterMap _ ?_
  rintro (f | q) (f' | q') less _ ⟨⟩ _ ⟨⟩
  exact less

variable (p transport urls) in
/-- The failures that `Pipeline.run` reports come in the order of the numbers of their pages. -/
theorem failures_increasing :
    (p.run transport (queriesFor urls)).failures.Pairwise fun a b ↦ a.id < b.id := by
  rw [run_eq]
  refine (results_increasing p transport urls).filterMap _ ?_
  rintro (f | q) (f' | q') less _ ⟨⟩ _ ⟨⟩
  exact less

theorem filterMap_toOption_outcome (o : Outcome) :
    (o.queries.map Except.ok ++ o.failures.map Except.error).filterMap Except.toOption =
      o.queries := by
  simp [List.filterMap_append, List.filterMap_map, Function.comp_def, Except.toOption]

theorem filterMap_failure?_outcome (o : Outcome) :
    (o.queries.map Except.ok ++ o.failures.map Except.error).filterMap failure? = o.failures := by
  simp [List.filterMap_append, List.filterMap_map, Function.comp_def, failure?]

/-- What is collected in a `Reachable` state that is `Completed` is what `Pipeline.process` makes of the pages, in
some order. -/
theorem Reachable.collected_perm (h : p.Reachable transport capacity urls net)
    (completed : net.Completed) :
    (net.outcome.queries.map Except.ok ++ net.outcome.failures.map Except.error).Perm
      ((queriesFor urls).map (p.process transport)) := by
  have collected := h.results_of_completed completed
  simp only [results, Multiset.map_coe, Multiset.coe_add] at collected
  exact Multiset.coe_eq_coe.1 collected

/-- What is collected in a `Reachable` state that is `Completed` is, in order, what `Pipeline.run` makes of the
pages. -/
theorem Reachable.sorted_outcome (h : p.Reachable transport capacity urls net)
    (completed : net.Completed) :
    net.outcome.sorted = p.run transport (queriesFor urls) := by
  have perm := h.collected_perm completed
  have through := perm.filterMap Except.toOption
  have failed := perm.filterMap failure?
  rw [filterMap_toOption_outcome] at through
  rw [filterMap_failure?_outcome] at failed
  rw [Outcome.sorted, mergeSort_eq_of_perm Query.id through (queries_increasing p transport urls),
    mergeSort_eq_of_perm StageFailure.id failed (failures_increasing p transport urls), run_eq]

/-- In a `Reachable` state that is `Completed`, the number of each page is collected once. -/
theorem Reachable.collected_ids (h : p.Reachable transport capacity urls net)
    (completed : net.Completed) :
    (net.ids .collector).Perm (List.range' 1 urls.length) := by
  have perm := (h.collected_perm completed).map resultId
  rw [map_resultId_process, List.map_append, List.map_map, List.map_map] at perm
  exact perm

/-- In a `Reachable` state that is `Completed`, each page is collected as all stages in turn have left it, or else
the failure of the first stage that it does not pass. -/
theorem Reachable.collected_or (h : p.Reachable transport capacity urls net)
    (completed : net.Completed) {q : Query} (fed : q ∈ queriesFor urls) :
    (∃ q', p.stages.foldlM (p.pass transport) q = some q' ∧ q' ∈ net.outcome.queries) ∨
      ∃ (k : Nat) (hk : k < p.stages.length) (reached left : Query) (failure : Failure),
        (p.stages.take k).foldlM (p.pass transport) q = some reached ∧
        p.apply transport reached p.stages[k] = (left, some failure) ∧
        ⟨q.id, k + 1, p.stages[k].name, failure⟩ ∈ net.outcome.failures := by
  have came := (h.collected_perm completed).symm.subset (List.mem_map_of_mem fed)
  rw [List.mem_append, List.mem_map, List.mem_map] at came
  rcases came with ⟨q', collected, through⟩ | ⟨f, collected, failed⟩
  · exact .inl ⟨q', processFrom_eq_ok_iff.1 through.symm, collected⟩
  · obtain ⟨k, hk, reached, left, failure, before, here, rfl⟩ :=
      processFrom_eq_error_iff.1 failed.symm
    rw [Nat.add_comm 1 k] at collected
    exact .inr ⟨k, hk, reached, left, failure, before, here, collected⟩

/-- No page is lost, none is counted twice, and nothing depends on who takes turns with whom. In every `Reachable`
state each page is in one place. In one that is `Completed` the collector has something of each page: the page as
all stages in turn have left it, or the failure of the first stage that it does not pass. And its
`Report.ofOutcome`, in the order of the numbers, is that of `Pipeline.run`. -/
theorem Reachable.accounting (h : p.Reachable transport capacity urls net) :
    (∀ id, 1 ≤ id → id ≤ urls.length →
      ∃ place, (net.ids place).count id = 1 ∧ ∀ other ≠ place, id ∉ net.ids other) ∧
    (net.Completed →
      (net.ids .collector).Perm (List.range' 1 urls.length) ∧
      (∀ (i : Nat) (hi : i < urls.length),
        let q : Query := { id := i + 1, rawUrl := urls[i] }
        (∃ q', p.stages.foldlM (p.pass transport) q = some q' ∧ q' ∈ net.outcome.queries) ∨
          ∃ (k : Nat) (hk : k < p.stages.length) (reached left : Query) (failure : Failure),
            (p.stages.take k).foldlM (p.pass transport) q = some reached ∧
            p.apply transport reached p.stages[k] = (left, some failure) ∧
            ⟨i + 1, k + 1, p.stages[k].name, failure⟩ ∈ net.outcome.failures) ∧
      net.outcome.sorted = p.run transport (queriesFor urls) ∧
      ∀ (a : Arguments) (around : Surroundings) (client : Client),
        a.urls = urls → around.transport = transport → client.pipeline = p →
        Report.ofOutcome a net.outcome.sorted = Report.ofPages a around client) := by
  refine ⟨fun id least most ↦ h.exists_place least most, fun completed ↦
    ⟨h.collected_ids completed, fun i hi ↦ h.collected_or completed (mem_queriesFor.2 ⟨i, hi, rfl⟩),
      h.sorted_outcome completed, ?_⟩⟩
  rintro a around client rfl rfl rfl
  rw [h.sorted_outcome completed]
  rfl

/-- A transport that answers with an empty page, but for one address, where it answers with status 404. -/
def pageGone : Transport := fun request ↦
  if request.url.path = "/gone".toList then .arrived ⟨404, Table.empty, some []⟩
  else Client.emptyPage request

/-- Some addresses: two of pages that have a record, and in between one that is empty, one of a page that is not
there, and one of a host that no site claims. -/
def mixedUrls : List String :=
  ["http://[::1]/", "", "http://[::1]/gone", "http://[::2]/", " http://[::1]/b "]

/-- Of the five pages of `mixedUrls`, which meet in channels of one item, two are emitted, and the others fail in
three stages; so the command line ends with the code 1. -/
theorem Reachable.accounting_mixedUrls :
    ∃ net, Client.loopback.pipeline.Reachable pageGone 1 mixedUrls net ∧ net.Completed ∧
      (net.ids .collector).Perm [1, 2, 3, 4, 5] ∧
      net.outcome.sorted.queries.map Query.id = [1, 5] ∧
      net.outcome.sorted.failures =
        [⟨2, 1, "parse-url", .of .invalidUrl "" "ParseUrl" (some .emptyUrl)⟩,
          ⟨3, 3, "check-status", .ofStatus "http://[::1]/gone" "CheckStatus" 404⟩,
          ⟨4, 5, "extract", .unclaimed "http://[::2]/" "[::2]"⟩] ∧
      (Report.ofOutcome { urls := mixedUrls } net.outcome.sorted).code = 1 := by
  have first : Client.loopback.pipeline.Reachable pageGone 1 mixedUrls
      (Client.loopback.pipeline.start mixedUrls) := .refl
  obtain ⟨net, run, completed⟩ := first.exists_completed
  have reachable : Client.loopback.pipeline.Reachable pageGone 1 mixedUrls net := run
  obtain ⟨ids, -, sorted, reported⟩ := reachable.accounting.2 completed
  refine ⟨net, reachable, completed, ids, ?_, ?_, ?_⟩
  · rw [sorted]
    decide +kernel
  · rw [sorted]
    decide +kernel
  · rw [reported { urls := mixedUrls } ⟨fun _ ↦ .error .notFound, pageGone⟩ Client.loopback rfl rfl rfl]
    decide +kernel

end Pipeline

end Gazette
