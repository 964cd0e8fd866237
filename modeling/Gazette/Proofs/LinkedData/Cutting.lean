import Gazette.Proofs.LinkedData.Bytes

/-!
# Cutting a script into blocks

A script is cut from left to right: what is not an opening brace is passed over, an opening brace begins a
block, which ends where the count of braces first comes back to zero, and the cutting stops at a brace that is
never closed. `Cut` says so without a search. `LinkedData.block?` is the first block of the cutting that has the
type asked for (`block?_of_cut`), so a text in front that can be cut to its end into blocks of other types makes
no difference (`block?_append_of_cut`).
-/

namespace Gazette.LinkedData

/-! ## Blocks -/

theorem IsBlock.braced {block : List Char} (h : IsBlock block) : ∃ inner, block = '\x7b' :: inner ++ ['\x7d'] := by
  obtain ⟨more, rfl, closes⟩ := h
  rcases List.eq_nil_or_concat more with rfl | ⟨inner, c, row⟩
  · exact absurd closes.closed (by decide)
  · rw [List.concat_eq_append] at row
    subst row
    have last : 1 + (depth inner + weight c) = 0 := by simpa [depth] using closes.closed
    have opened : 0 < 1 + depth inner := closes.opened inner (List.prefix_append inner [c]) (by simp)
    have negative : weight c < 0 := by omega
    obtain rfl : c = '\x7d' := by
      by_contra other
      have light : 0 ≤ weight c := by rw [weight, if_neg other]; split <;> decide
      omega
    exact ⟨inner, rfl⟩

/-- With its last character a block has closed all braces. -/
theorem IsBlock.depth_eq {block : List Char} (h : IsBlock block) : depth block = 0 := by
  obtain ⟨inner, rfl, closes⟩ := h
  exact (depth_cons '\x7b' inner).trans closes.closed

/-- Before its last character some brace of a block is open. -/
theorem IsBlock.depth_pos {block lead : List Char} (h : IsBlock block) (front : lead <+: block) (some : lead ≠ [])
    (ne : lead ≠ block) : 0 < depth lead := by
  obtain ⟨inner, rfl, closes⟩ := h
  cases lead with
  | nil => exact absurd rfl some
  | cons c lead =>
    obtain ⟨rfl, shorter⟩ := List.cons_prefix_cons.1 front
    have opened := closes.opened lead shorter (by simpa using ne)
    rwa [depth_cons]

/-- Braces stay open throughout a run if they do so in front of it and behind its first character. -/
theorem forall_prefix_cons_iff {e : Int} {c : Char} {cs : List Char} :
    (∀ lead, lead <+: c :: cs → 0 < e + depth lead) ↔ 0 < e ∧ ∀ lead, lead <+: cs → 0 < e + weight c + depth lead := by
  constructor
  · intro h
    refine ⟨by simpa using h [] List.nil_prefix, fun lead front ↦ ?_⟩
    have opened := h (c :: lead) (List.prefix_cons_inj c |>.2 front)
    rw [depth_cons] at opened
    omega
  · rintro ⟨positive, h⟩ lead front
    cases lead with
    | nil => simpa using positive
    | cons a lead =>
      obtain ⟨rfl, shorter⟩ := List.cons_prefix_cons.1 front
      have opened := h lead shorter
      rw [depth_cons]
      omega

/-- `closing?` fails exactly if the open braces are never closed. -/
theorem closing?_eq_none_iff {d : Nat} (positive : 0 < d) {cs : List Char} :
    closing? d cs = none ↔ ∀ lead, lead <+: cs → 0 < d + depth lead := by
  induction cs generalizing d with
  | nil =>
    refine ⟨fun _ lead front ↦ ?_, fun _ ↦ rfl⟩
    rw [List.prefix_nil.1 front]
    simpa using positive
  | cons c cs ih =>
    rw [forall_prefix_cons_iff, and_iff_right (by omega)]
    -- Where some brace is still open behind `c`, the search fails with the new count.
    have goesOn {e : Nat} (left : 0 < e) (count : (d : Int) + weight c = e) :
        closing? e cs = none ↔ ∀ lead, lead <+: cs → 0 < d + weight c + depth lead := by
      rw [count, ih left]
    rw [closing?]
    split
    next opens => exact Option.map_eq_none_iff.trans (goesOn (by omega) (by simp [weight, opens]))
    next =>
      split
      next closes =>
        have count : weight c = -1 := by simp [weight, closes]
        split
        next last =>
          -- The last brace is closed here.
          refine ⟨fun found ↦ absurd found (Option.some_ne_none _), fun h ↦ ?_⟩
          have opened := h [] List.nil_prefix
          rw [depth_nil] at opened
          omega
        next => exact Option.map_eq_none_iff.trans (goesOn (by omega) (by omega))
      next => exact Option.map_eq_none_iff.trans (goesOn positive (by simp [weight, *]))

/-! ## The cutting -/

/-- `Cut cs blocks rest`: the run is cut into `blocks`, and `rest` is left. -/
inductive Cut : List Char → List (List Char) → List Char → Prop
  /-- At the end nothing is left. -/
  | done : Cut [] [] []
  /-- Outside of blocks everything but an opening brace is passed over, also a closing one. -/
  | pass {c : Char} {cs rest : List Char} {blocks : List (List Char)} (other : c ≠ '\x7b') (h : Cut cs blocks rest) :
    Cut (c :: cs) blocks rest
  /-- A block is cut off. -/
  | block {block cs rest : List Char} {blocks : List (List Char)} (whole : IsBlock block) (h : Cut cs blocks rest) :
    Cut (block ++ cs) (block :: blocks) rest
  /-- At a brace that is never closed the cutting stops. -/
  | stop {cs : List Char} (unclosed : ∀ lead, lead <+: cs → 0 < 1 + depth lead) : Cut ('\x7b' :: cs) [] ('\x7b' :: cs)

variable {cs ds rest : List Char} {blocks more : List (List Char)}

/-- The blocks of a `Cut` are those that `blocksOf` lists. -/
theorem Cut.blocks_eq (h : Cut cs blocks rest) : blocks = blocksOf cs := by
  induction h with
  | done => rw [blocksOf_nil]
  | pass other _ ih => rw [blocksOf_cons_of_ne other, ih]
  | block whole _ ih => rw [blocksOf_append whole, ih]
  | @stop cs unclosed =>
    rw [blocksOf_of_open]
    rintro block rest row ⟨inner, rfl, closes⟩
    have front : inner <+: cs := ⟨rest, (List.cons_eq_cons.1 row).2⟩
    have opened := unclosed inner front
    rw [closes.closed] at opened
    exact absurd opened (Int.lt_irrefl 0)

/-- Every run can be `Cut`. -/
theorem exists_cut (cs : List Char) : ∃ rest, Cut cs (blocksOf cs) rest := by
  fun_induction blocksOf cs with
  | case1 => exact ⟨[], .done⟩
  | case2 cs none => exact ⟨_, .stop ((closing?_eq_none_iff Nat.one_pos).1 none)⟩
  | case3 cs inner behind found ih =>
    obtain ⟨rest, h⟩ := ih
    obtain ⟨rfl, closes⟩ := (closing?_eq_some_iff Nat.one_pos).1 found
    exact ⟨rest, .block ⟨inner, rfl, closes⟩ h⟩
  | case4 c cs other ih =>
    obtain ⟨rest, h⟩ := ih
    exact ⟨rest, .pass other h⟩

/-- Behind a run that is `Cut` to its end the cutting goes on. -/
theorem Cut.append (h : Cut cs blocks []) (h' : Cut ds more rest) : Cut (cs ++ ds) (blocks ++ more) rest := by
  generalize none : ([] : List Char) = left at h
  induction h with
  | done => exact h'
  | pass other _ ih => exact .pass other (ih none)
  | block whole _ ih =>
    rw [List.append_assoc]
    exact .block whole (ih none)
  | stop => cases none

theorem Cut.infix_of_mem (h : Cut cs blocks rest) {block : List Char} (mem : block ∈ blocks) : block <:+: cs := by
  induction h with
  | done => cases mem
  | pass other _ ih => exact List.infix_cons (ih mem)
  | block whole _ ih =>
    rcases List.mem_cons.1 mem with rfl | mem
    · exact (List.prefix_append _ _).isInfix
    · exact (ih mem).trans (List.suffix_append _ _).isInfix
  | stop => cases mem

/-! ## The first block of a type -/

/-- `block?` finds the first block of a `Cut` that mentions the type. -/
theorem block?_of_cut {target s : String} {blocks : List (List Char)} {rest : List Char}
    (h : Cut s.toList blocks rest) :
    block? target s = (blocks.map String.ofList).find? (mentions target) := by
  rw [block?_eq_find?, LinkedData.blocks, h.blocks_eq]

/-- The block that `block?` finds is a piece of the text, in braces; before its end some brace is open. -/
theorem shape_of_block? {target s block : String} (found : block? target s = some block) :
    (∃ lead trail, s = lead ++ block ++ trail) ∧ (∃ inner, block = "\x7b" ++ inner ++ "\x7d") ∧
      depth block.toList = 0 ∧
      ∀ lead, lead <+: block.toList → lead ≠ [] → lead ≠ block.toList → 0 < depth lead := by
  obtain ⟨rest, cut⟩ := exists_cut s.toList
  rw [block?_of_cut cut] at found
  obtain ⟨piece, mem, rfl⟩ := List.mem_map.1 (List.mem_of_find?_eq_some found)
  have whole := isBlock_of_mem_blocksOf mem
  obtain ⟨lead, trail, row⟩ := cut.infix_of_mem mem
  obtain ⟨inner, rfl⟩ := whole.braced
  rw [String.toList_ofList]
  refine ⟨⟨.ofList lead, .ofList trail, String.toList_inj.1 ?_⟩, ⟨.ofList inner, String.toList_inj.1 ?_⟩,
    whole.depth_eq, fun lead ↦ whole.depth_pos⟩
  · simpa using row.symm
  · simp

/-- A text in front that is `Cut` to its end into blocks of other types makes no difference to `block?`. -/
theorem block?_append_of_cut {target front : String} (s : String) {blocks : List (List Char)}
    (h : Cut front.toList blocks []) (others : ∀ block ∈ blocks, ¬ mentions target (String.ofList block)) :
    block? target (front ++ s) = block? target s := by
  obtain ⟨rest, cut⟩ := exists_cut s.toList
  have row := h.append cut
  rw [← String.toList_append] at row
  have passed : (blocks.map String.ofList).find? (mentions target) = none := by
    rw [List.find?_eq_none]
    exact List.forall_mem_map.2 others
  rw [block?_of_cut row, block?_of_cut cut, List.map_append, List.find?_append, passed, Option.none_or]

/-- Every text can be `Cut`, and `block?` finds the first block of a `Cut` that mentions the type. That is a piece
of the text, in braces, and before its end some brace is open; the search by bytes, `scanBlock?`, does not fail
and finds it, too; and a text in front that is `Cut` to its end into blocks of other types makes no difference. -/
theorem block?_first_of_cut (target s : String) :
    (∃ blocks rest, Cut s.toList blocks rest) ∧
    (∀ blocks rest, Cut s.toList blocks rest →
      block? target s = (blocks.map String.ofList).find? (mentions target)) ∧
    (∀ block, block? target s = some block →
      (∃ lead trail, s = lead ++ block ++ trail) ∧ (∃ inner, block = "\x7b" ++ inner ++ "\x7d") ∧
      depth block.toList = 0 ∧
      ∀ lead, lead <+: block.toList → lead ≠ [] → lead ≠ block.toList → 0 < depth lead) ∧
    scanBlock? target s = some (block? target s) ∧
    ∀ front blocks, Cut front.toList blocks [] → (∀ block ∈ blocks, ¬ mentions target (String.ofList block)) →
      block? target (front ++ s) = block? target s := by
  obtain ⟨rest, cut⟩ := exists_cut s.toList
  exact ⟨⟨_, rest, cut⟩, fun _ _ ↦ block?_of_cut, fun _ ↦ shape_of_block?, scanBlock?_eq target s,
    fun _ _ ↦ block?_append_of_cut s⟩

end Gazette.LinkedData
