import Mathlib.Data.List.Forall2

/-!
# Steps that may fail

What follows from the success of steps that are taken one after the other (`exists_of_bind`, `exists_of_mapM`),
and when `List.foldlM` or `List.mapM` succeeds of which each step does so, or not, in any state
(`isSome_foldlM_iff`, `exists_foldlM_iff`, `mapM_eq_some_iff`).
-/

namespace Gazette

variable {α β σ ε : Type}

/-- Where `first >>= next` succeeds, so does `first`, and then `next` on what it gave. -/
theorem exists_of_bind {first : Except ε α} {next : α → Except ε β} {b : β} (h : first >>= next = .ok b) :
    ∃ a, first = .ok a ∧ next a = .ok b := by
  cases first with
  | error e => cases h
  | ok a => exact ⟨a, rfl, h⟩

variable {P : α → Prop} {items : List α}

/-- `List.foldlM` succeeds in `Option` if each step does, where success does not depend on the state. -/
theorem isSome_foldlM_iff {f : σ → α → Option σ} (each : ∀ s a, (f s a).isSome ↔ P a) (s : σ) :
    (items.foldlM f s).isSome ↔ ∀ a ∈ items, P a := by
  induction items generalizing s with
  | nil => simp
  | cons a items ih =>
    rw [List.foldlM_cons, List.forall_mem_cons, ← each s a]
    cases step : f s a with
    | none => simp
    | some s' => simpa using ih s'

/-- `List.foldlM` succeeds in `Except ε` if each step does, where success does not depend on the state. -/
theorem exists_foldlM_iff {f : σ → α → Except ε σ} (each : ∀ s a, (∃ s', f s a = .ok s') ↔ P a) (s : σ) :
    (∃ s', items.foldlM f s = .ok s') ↔ ∀ a ∈ items, P a := by
  induction items generalizing s with
  | nil => exact ⟨fun _ _ mem ↦ absurd mem List.not_mem_nil, fun _ ↦ ⟨s, rfl⟩⟩
  | cons a items ih =>
    rw [List.foldlM_cons, List.forall_mem_cons, ← each s a]
    cases step : f s a with
    | error e =>
      constructor
      · rintro ⟨s', ⟨⟩⟩
      · rintro ⟨⟨s', ⟨⟩⟩, -⟩
    | ok s' => exact (ih s').trans ⟨fun others ↦ ⟨⟨s', rfl⟩, others⟩, And.right⟩

/-- `List.mapM` of a function that is `pure` on all items is `List.map`. -/
theorem mapM_eq_pure_map {m : Type → Type} [Monad m] [LawfulMonad m] {f : α → m β} {g : α → β}
    (each : ∀ a ∈ items, f a = pure (g a)) : items.mapM f = pure (items.map g) := by
  induction items with
  | nil => exact List.mapM_nil
  | cons a items ih =>
    obtain ⟨first, others⟩ := List.forall_mem_cons.1 each
    rw [List.mapM_cons, first, ih others, pure_bind, pure_bind, List.map_cons]

/-- `List.mapM` in `Option` takes a list item by item. -/
theorem mapM_eq_some_iff {f : α → Option β} {list : List β} :
    items.mapM f = some list ↔ List.Forall₂ (fun a b ↦ f a = some b) items list := by
  induction items generalizing list with
  | nil => simp [eq_comm]
  | cons a items ih =>
    simp only [List.mapM_cons, Option.bind_eq_bind, Option.bind_eq_some_iff, Option.pure_def, Option.some.injEq,
      List.forall₂_cons_left_iff, ih]
    constructor
    · rintro ⟨b, first, bs, others, rfl⟩
      exact ⟨b, bs, first, others, rfl⟩
    · rintro ⟨b, bs, first, others, rfl⟩
      exact ⟨b, first, bs, others, rfl⟩

/-- `List.mapM` succeeds in `Option` if each item is taken. -/
theorem isSome_mapM_iff {f : α → Option β} : (items.mapM f).isSome ↔ ∀ a ∈ items, (f a).isSome := by
  induction items with
  | nil => simp
  | cons a items ih =>
    rw [List.mapM_cons, List.forall_mem_cons, ← ih]
    cases f a <;> cases items.mapM f <;> simp

/-- Where `List.mapM` succeeds in `Except ε`, each item is taken. -/
theorem exists_of_mapM {f : α → Except ε β} {list : List β} (taken : items.mapM f = .ok list) :
    ∀ a ∈ items, ∃ b, f a = .ok b := by
  induction items generalizing list with
  | nil => exact fun _ mem ↦ absurd mem List.not_mem_nil
  | cons a items ih =>
    rw [List.mapM_cons] at taken
    obtain ⟨b, first, others⟩ := exists_of_bind taken
    obtain ⟨list', later, -⟩ := exists_of_bind others
    exact List.forall_mem_cons.2 ⟨⟨b, first⟩, ih later⟩

end Gazette
