import Gazette.Article.Basic
import Gazette.Table

/-!
# Texts in order

`sortedTexts` brings the texts of a list into the order of their code points, each text once and the empty one
left out. What it makes depends only on which texts there are: they are all that stands in it
(`mem_sortedTexts`), and it ascends (`pairwise_sortedTexts`).
-/

namespace Gazette

/-- `insertText` adds the new text and drops none. -/
theorem mem_insertText {s t : String} {l : List String} :
    t ∈ insertText s l ↔ t = s ∨ t ∈ l := by
  induction l with
  | nil => simp [insertText]
  | cons hd tl ih =>
    rw [insertText]
    split
    · exact List.mem_cons
    · split
      next same =>
        obtain rfl := same
        simp
      next => rw [List.mem_cons, ih, List.mem_cons, or_left_comm]

/-- `insertText` keeps the order. -/
theorem pairwise_insertText (s : String) {l : List String} (h : l.Pairwise (· < ·)) :
    (insertText s l).Pairwise (· < ·) := by
  induction l with
  | nil => exact List.pairwise_singleton _ s
  | cons hd tl ih =>
    obtain ⟨before, tail⟩ := List.pairwise_cons.1 h
    rw [insertText]
    split
    next less =>
      refine List.pairwise_cons.2 ⟨fun t ht ↦ ?_, h⟩
      rcases List.mem_cons.1 ht with rfl | ht
      · exact less
      · exact String.lt_trans less (before t ht)
    next notLess =>
      split
      next => exact h
      next other =>
        refine List.pairwise_cons.2 ⟨fun t ht ↦ ?_, ih tail⟩
        rcases mem_insertText.1 ht with rfl | ht
        · exact lt_of_not_lt_of_ne notLess other
        · exact before t ht

/-- `insertText` of several texts adds them and drops none. -/
theorem mem_foldl_insertText {s : String} {texts sorted : List String} :
    s ∈ texts.foldl (fun sorted s ↦ insertText s sorted) sorted ↔ s ∈ texts ∨ s ∈ sorted := by
  induction texts generalizing sorted with
  | nil => simp
  | cons t rest ih => rw [List.foldl_cons, ih, mem_insertText, List.mem_cons, or_left_comm, or_assoc]

/-- In `sortedTexts` stand all texts of a list but the empty one. -/
theorem mem_sortedTexts {s : String} {l : List String} :
    s ∈ sortedTexts l ↔ s ≠ "" ∧ s ∈ l := by
  rw [sortedTexts, mem_foldl_insertText, List.mem_filter]
  simp [and_comm]

/-- `sortedTexts` ascends. -/
theorem pairwise_sortedTexts (l : List String) : (sortedTexts l).Pairwise (· < ·) := by
  unfold sortedTexts
  exact List.foldlRecOn _ _ List.Pairwise.nil fun _ sorted s _ ↦ pairwise_insertText s sorted

theorem empty_notMem_sortedTexts (l : List String) : "" ∉ sortedTexts l :=
  fun mem ↦ (mem_sortedTexts.1 mem).1 rfl

theorem nodup_of_pairwise_lt {l : List String} (h : l.Pairwise (· < ·)) : l.Nodup := by
  refine h.imp fun {a b} less same ↦ ?_
  rw [same] at less
  exact String.lt_irrefl b less

end Gazette
