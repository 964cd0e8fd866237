import Gazette.Proofs.Article.Sorted
import Mathlib.Data.List.Sort

/-!
# Merging as an operation

Drafts may be merged by `Article.merge` in any grouping. The empty draft adds nothing, and neither does a draft
merged with itself, but merging brings the tags and the related articles of a record into their normal form:
ascending, each once, and without the empty text. `Normalizes` says what that form is, `sortedTexts_eq_iff` that
`sortedTexts` makes it, and `Article.normal` is a record with both lists in it.
-/

namespace Gazette

/-! ## Lists in normal form -/

/-- `Normalizes normal l`: the list `normal` ascends and holds exactly the texts of `l` that are not empty. -/
structure Normalizes (normal l : List String) : Prop where
  /-- Each text comes before all that follow. -/
  ascends : normal.Pairwise (· < ·)
  /-- Only the empty text is left out. -/
  mem_iff : ∀ s, s ∈ normal ↔ s ≠ "" ∧ s ∈ l

/-- `sortedTexts l` is the normal form of `l`. -/
theorem normalizes_sortedTexts (l : List String) : Normalizes (sortedTexts l) l :=
  ⟨pairwise_sortedTexts l, fun _ ↦ mem_sortedTexts⟩

/-- Lists that agree but for the empty text have one normal form. -/
theorem Normalizes.unique {normal other l m : List String} (h : Normalizes normal l) (h' : Normalizes other m)
    (same : ∀ s, s ≠ "" → (s ∈ l ↔ s ∈ m)) : normal = other := by
  refine h.ascends.eq_of_mem_iff h'.ascends fun s ↦ ?_
  rw [h.mem_iff, h'.mem_iff]
  exact and_congr_right (same s)

/-- `sortedTexts` makes the same of two lists exactly if they have the same texts, the empty one apart. -/
theorem sortedTexts_eq_iff {l m : List String} :
    sortedTexts l = sortedTexts m ↔ ∀ s, s ≠ "" → (s ∈ l ↔ s ∈ m) := by
  constructor
  · intro same s hs
    have mem : s ∈ sortedTexts l ↔ s ∈ sortedTexts m := by rw [same]
    simpa [mem_sortedTexts, hs] using mem
  · exact (normalizes_sortedTexts l).unique (normalizes_sortedTexts m)

/-- `sortedTexts` of a list does not depend on whether its first part went through `sortedTexts` before. -/
theorem sortedTexts_sortedTexts_append (l m : List String) :
    sortedTexts (sortedTexts l ++ m) = sortedTexts (l ++ m) := by
  refine sortedTexts_eq_iff.2 fun s hs ↦ ?_
  simp [mem_sortedTexts, hs]

/-- Neither does it for the last part. -/
theorem sortedTexts_append_sortedTexts (l m : List String) :
    sortedTexts (l ++ sortedTexts m) = sortedTexts (l ++ m) := by
  refine sortedTexts_eq_iff.2 fun s hs ↦ ?_
  simp [mem_sortedTexts, hs]

/-- A text that stands in a list more than once counts once in `sortedTexts`. -/
theorem sortedTexts_append_append_self (l m : List String) :
    sortedTexts (l ++ (l ++ m)) = sortedTexts (l ++ m) := by
  refine sortedTexts_eq_iff.2 fun s _ ↦ ?_
  rw [List.mem_append, List.mem_append, or_self_left]

theorem sortedTexts_append_self (l : List String) : sortedTexts (l ++ l) = sortedTexts l := by
  have twice := sortedTexts_append_append_self l []
  rwa [List.append_nil] at twice

namespace Article

/-! ## The first of two -/

section FirstOf

variable {α : Type} [DecidableEq α] (empty a b c : α)

/-- The first of two values, unless it is the value `empty`. -/
def firstOf : α := if a = empty then b else a

theorem firstOf_assoc :
    firstOf empty (firstOf empty a b) c = firstOf empty a (firstOf empty b c) := by
  unfold firstOf
  by_cases none : a = empty
  · rw [if_pos none, if_pos none]
  · rw [if_neg none, if_neg none, if_neg none]

theorem firstOf_empty_left : firstOf empty empty a = a := if_pos rfl

theorem firstOf_empty_right : firstOf empty a empty = a := by
  unfold firstOf
  split
  next none => exact none.symm
  next => rfl

theorem firstOf_self : firstOf empty a a = a := ite_self a

end FirstOf

/-- `firstText` is `firstOf` with the empty text as `empty`. -/
theorem firstText_eq_firstOf (a b : String) : firstText a b = firstOf "" a b := by
  simp only [firstText, firstOf, String.isEmpty_iff]

/-- `firstList` is `firstOf` with the empty list as `empty`. -/
theorem firstList_eq_firstOf (a b : List String) : firstList a b = firstOf [] a b := by
  simp only [firstList, firstOf, List.isEmpty_iff]

/-! ## Merging -/

/-- The record `a` with tags and related articles brought into order by `sortedTexts`. -/
def normal (a : Article) : Article :=
  { a with tags := sortedTexts a.tags, related := sortedTexts a.related }

variable (a b c : Article)

/-- `merge` is associative, without any normal form. -/
theorem merge_assoc : (a.merge b).merge c = a.merge (b.merge c) := by
  simp only [merge, firstText_eq_firstOf, firstList_eq_firstOf, firstOf_assoc, Option.or_assoc,
    sortedTexts_sortedTexts_append, sortedTexts_append_sortedTexts, List.append_assoc]

/-- The empty draft in front of `a` only brings `a` into its `normal` form. -/
theorem empty_merge : ({} : Article).merge a = a.normal := by
  simp only [merge, firstText_eq_firstOf, firstList_eq_firstOf, firstOf_empty_left, Option.none_or,
    List.nil_append, normal]

/-- The empty draft behind `a` only brings `a` into its `normal` form. -/
theorem merge_empty : a.merge {} = a.normal := by
  simp only [merge, firstText_eq_firstOf, firstList_eq_firstOf, firstOf_empty_right, Option.or_none,
    List.append_nil, normal]

/-- `merge` of a record with itself is its `normal` form. -/
theorem merge_self : a.merge a = a.normal := by
  simp only [merge, firstText_eq_firstOf, firstList_eq_firstOf, firstOf_self, Option.or_self,
    sortedTexts_append_self, normal]

/-- `merge` with `a` in front adds nothing to what has come through `a.merge`. -/
theorem merge_merge_self : a.merge (a.merge b) = a.merge b := by
  rw [← merge_assoc, merge_self]
  simp only [merge, normal, sortedTexts_sortedTexts_append]

/-- `addTags` in two steps is `addTags` in one. -/
theorem addTags_addTags (tags more : List String) :
    (a.addTags tags).addTags more = a.addTags (tags ++ more) := by
  simp only [addTags, sortedTexts_sortedTexts_append, List.append_assoc]

/-- The order in which `addTags` adds tags does not matter. -/
theorem addTags_comm (tags more : List String) :
    (a.addTags tags).addTags more = (a.addTags more).addTags tags := by
  have order : sortedTexts (a.tags ++ (tags ++ more)) = sortedTexts (a.tags ++ (more ++ tags)) := by
    refine sortedTexts_eq_iff.2 fun s _ ↦ ?_
    simp only [List.mem_append, or_comm (a := s ∈ tags)]
  rw [addTags_addTags, addTags_addTags, addTags, addTags, order]

/-- The tags of `merge` are those of both drafts, but for the empty one. -/
theorem mem_tags_merge {s : String} : s ∈ (a.merge b).tags ↔ s ≠ "" ∧ (s ∈ a.tags ∨ s ∈ b.tags) := by
  rw [merge, mem_sortedTexts, List.mem_append]

/-- The related articles of `merge` are those of both drafts, but for the empty one. -/
theorem mem_related_merge {s : String} :
    s ∈ (a.merge b).related ↔ s ≠ "" ∧ (s ∈ a.related ∨ s ∈ b.related) := by
  rw [merge, mem_sortedTexts, List.mem_append]

/-- `merge` is associative; with the empty draft on either side, or with the record itself, it gives the record
with tags and related articles in the form that `Normalizes` describes; and it has the tags and the related
articles of both drafts. `addTags` adds tags in any order and in any number of steps. -/
theorem merge_assoc_normalizes_addTags_comm (tags more : List String) :
    (a.merge b).merge c = a.merge (b.merge c) ∧
    (∃ normal : Article,
      normal = { a with tags := normal.tags, related := normal.related } ∧
      Normalizes normal.tags a.tags ∧ Normalizes normal.related a.related ∧
      ({} : Article).merge a = normal ∧ a.merge {} = normal ∧ a.merge a = normal) ∧
    a.merge (a.merge b) = a.merge b ∧
    (∀ s, s ∈ (a.merge b).tags ↔ s ≠ "" ∧ (s ∈ a.tags ∨ s ∈ b.tags)) ∧
    (∀ s, s ∈ (a.merge b).related ↔ s ≠ "" ∧ (s ∈ a.related ∨ s ∈ b.related)) ∧
    (a.addTags tags).addTags more = (a.addTags more).addTags tags ∧
    (a.addTags tags).addTags more = a.addTags (tags ++ more) := by
  exact ⟨merge_assoc a b c, ⟨a.normal, rfl, normalizes_sortedTexts a.tags,
    normalizes_sortedTexts a.related, empty_merge a, merge_empty a, merge_self a⟩, merge_merge_self a b,
    fun _ ↦ mem_tags_merge a b, fun _ ↦ mem_related_merge a b, addTags_comm a tags more,
    addTags_addTags a tags more⟩

end Article

end Gazette
