import Gazette.LinkedData.Block
import Mathlib.Algebra.Ring.Int.Defs

/-!
# The blocks of a script

A script is read as a row of blocks with other text between them. `IsBlock` says what a block is, by counting
braces (`depth`), and `blocks` lists those of a script: behind a block the search goes on, and at a brace that
no block begins with it ends. `LinkedData.block?` is the first block of that list that has the type asked for
(`block?_eq_find?`).

`Closes d cs` is what the search `closing?` for the end of a block finds, for any number `d` of open braces.
-/

namespace Gazette.LinkedData

/-! ## Counting braces -/

/-- What a character adds to the count of open braces: 1, -1 or nothing. -/
def weight (c : Char) : Int := if c = '\x7b' then 1 else if c = '\x7d' then -1 else 0

/-- How many more braces a run opens than it closes. -/
def depth (cs : List Char) : Int := (cs.map weight).sum

@[simp] theorem depth_nil : depth [] = 0 := rfl

@[simp] theorem depth_cons (c : Char) (cs : List Char) : depth (c :: cs) = weight c + depth cs :=
  List.sum_cons

/-- `Closes d cs`: the run closes `d` braces that were open before it. With its last character no brace is open
any more, and before that one always is. -/
structure Closes (d : Int) (cs : List Char) : Prop where
  /-- At the end no brace is open. -/
  closed : d + depth cs = 0
  /-- Before the end some brace is open. -/
  opened : ∀ lead, lead <+: cs → lead ≠ cs → 0 < d + depth lead

theorem closes_nil_iff {d : Int} : Closes d [] ↔ d = 0 := by
  constructor
  · intro h
    simpa using h.closed
  · rintro rfl
    exact ⟨rfl, fun lead pre ne ↦ absurd (List.prefix_nil.1 pre) ne⟩

/-- `Closes` of a run with one more character in front, that character counted. -/
theorem closes_cons_iff {d : Int} {c : Char} {cs : List Char} :
    Closes d (c :: cs) ↔ 0 < d ∧ Closes (d + weight c) cs := by
  constructor
  · intro h
    refine ⟨?_, ?_, fun lead pre ne ↦ ?_⟩
    · simpa using h.opened [] List.nil_prefix (List.cons_ne_nil c cs).symm
    · have closed := h.closed
      rw [depth_cons] at closed
      omega
    · have opened := h.opened (c :: lead) (List.prefix_cons_inj c |>.2 pre) (by simpa using ne)
      rw [depth_cons] at opened
      omega
  · rintro ⟨positive, h⟩
    refine ⟨?_, fun lead pre ne ↦ ?_⟩
    · rw [depth_cons]
      have closed := h.closed
      omega
    · cases lead with
      | nil => simpa using positive
      | cons a lead =>
        obtain ⟨rfl, shorter⟩ := List.cons_prefix_cons.1 pre
        have opened := h.opened lead shorter (by simpa using ne)
        rw [depth_cons]
        omega

theorem Closes.eq_nil {cs : List Char} (h : Closes 0 cs) : cs = [] := by
  cases cs with
  | nil => rfl
  | cons c cs => exact absurd (closes_cons_iff.1 h).1 (Int.lt_irrefl 0)

/-- The runs in front of a text that `Closes` some open braces begin with its first character. -/
theorem append_closes_cons_iff {d : Int} (positive : 0 < d) {c : Char} {cs block rest : List Char} :
    block ++ rest = c :: cs ∧ Closes d block ↔
      ∃ more, block = c :: more ∧ more ++ rest = cs ∧ Closes (d + weight c) more := by
  constructor
  · rintro ⟨row, h⟩
    cases block with
    | nil => exact absurd (closes_nil_iff.1 h) (Int.ne_of_gt positive)
    | cons a more =>
      obtain ⟨rfl, behind⟩ := List.cons_eq_cons.1 row
      exact ⟨more, rfl, behind, (closes_cons_iff.1 h).2⟩
  · rintro ⟨more, rfl, rfl, h⟩
    exact ⟨rfl, closes_cons_iff.2 ⟨positive, h⟩⟩

/-- `closing? d` cuts off what `Closes d`. -/
theorem closing?_eq_some_iff {d : Nat} (positive : 0 < d) {cs block rest : List Char} :
    closing? d cs = some (block, rest) ↔ block ++ rest = cs ∧ Closes d block := by
  induction cs generalizing d block with
  | nil =>
    constructor
    · intro h
      cases h
    · rintro ⟨none, h⟩
      obtain ⟨rfl, rfl⟩ := List.append_eq_nil_iff.1 none
      have zero := closes_nil_iff.1 h
      omega
  | cons c cs ih =>
    rw [append_closes_cons_iff (by omega)]
    -- Where some brace is still open behind `c`, the search goes on with the new count.
    have goesOn {e : Nat} (left : 0 < e) (count : (d : Int) + weight c = e) :
        ((closing? e cs).map fun found ↦ (c :: found.1, found.2)) = some (block, rest) ↔
          ∃ more, block = c :: more ∧ more ++ rest = cs ∧ Closes (d + weight c) more := by
      rw [count, Option.map_eq_some_iff]
      constructor
      · rintro ⟨⟨more, behind⟩, found, same⟩
        cases same
        exact ⟨more, rfl, (ih left).1 found⟩
      · rintro ⟨more, rfl, h⟩
        exact ⟨(more, rest), (ih left).2 h, rfl⟩
    simp only [closing?]
    split
    next opens => exact goesOn (by omega) (by simp [weight, opens])
    next =>
      split
      next closes =>
        have count : weight c = -1 := by simp [weight, closes]
        split
        next last =>
          have zero : (d : Int) + weight c = 0 := by omega
          rw [zero, Option.some.injEq, Prod.mk.injEq]
          constructor
          · rintro ⟨rfl, rfl⟩
            exact ⟨[], rfl, rfl, closes_nil_iff.2 rfl⟩
          · rintro ⟨more, rfl, row, h⟩
            obtain rfl := h.eq_nil
            exact ⟨rfl, row.symm⟩
        next => exact goesOn (by omega) (by omega)
      next => exact goesOn positive (by simp [weight, *])

/-! ## Blocks -/

/-- A block begins with an opening brace, and the first brace that brings the count back to zero ends it. -/
def IsBlock (block : List Char) : Prop := ∃ inner, block = '\x7b' :: inner ∧ Closes 1 inner

/-- The blocks of a run in their order, by `closing?`. -/
def blocksOf (cs : List Char) : List (List Char) :=
  match cs with
  | [] => []
  | c :: cs =>
    if c = '\x7b' then
      match _h : closing? 1 cs with
      | none => []
      | some (block, rest) => (c :: block) :: blocksOf rest
    else blocksOf cs
termination_by cs.length
decreasing_by
  · have := congrArg List.length (append_of_closing? _h)
    simp only [List.length_append, List.length_cons] at this ⊢
    omega
  · simp

theorem blocksOf_nil : blocksOf [] = [] := by
  unfold blocksOf
  rfl

/-- `blocksOf` passes over what is no opening brace. -/
theorem blocksOf_cons_of_ne {c : Char} (h : c ≠ '\x7b') (cs : List Char) :
    blocksOf (c :: cs) = blocksOf cs := by
  rw [blocksOf, if_neg h]

/-- `blocksOf` goes on behind a block. -/
theorem blocksOf_append {block : List Char} (h : IsBlock block) (rest : List Char) :
    blocksOf (block ++ rest) = block :: blocksOf rest := by
  obtain ⟨inner, rfl, closes⟩ := h
  have found : closing? 1 (inner ++ rest) = some (inner, rest) :=
    (closing?_eq_some_iff Nat.one_pos).2 ⟨rfl, closes⟩
  rw [List.cons_append, blocksOf, if_pos rfl]
  split
  next none => rw [found] at none; cases none
  next block' rest' some =>
    rw [found] at some
    cases some
    rfl

/-- `blocksOf` ends at a brace with which no block begins. -/
theorem blocksOf_of_open {cs : List Char}
    (h : ∀ block rest, block ++ rest = '\x7b' :: cs → ¬ IsBlock block) :
    blocksOf ('\x7b' :: cs) = [] := by
  rw [blocksOf, if_pos rfl]
  split
  next => rfl
  next block rest found =>
    obtain ⟨rfl, closes⟩ := (closing?_eq_some_iff Nat.one_pos).1 found
    exact absurd ⟨block, rfl, closes⟩ (h ('\x7b' :: block) rest rfl)

/-- What `blocksOf` lists are blocks. -/
theorem isBlock_of_mem_blocksOf {cs block : List Char} (mem : block ∈ blocksOf cs) : IsBlock block := by
  fun_induction blocksOf cs with
  | case1 => cases mem
  | case2 => cases mem
  | case3 cs inner rest found ih =>
    rcases List.mem_cons.1 mem with rfl | mem
    · exact ⟨inner, rfl, ((closing?_eq_some_iff Nat.one_pos).1 found).2⟩
    · exact ih mem
  | case4 c cs other ih => exact ih mem

/-- `blocksOf` lists of a block only the block itself. -/
theorem blocksOf_of_isBlock {block : List Char} (h : IsBlock block) : blocksOf block = [block] := by
  have row := blocksOf_append h []
  rwa [List.append_nil, blocksOf_nil] at row

/-- `blockOf?` is the first of `blocksOf` that has the type. -/
theorem blockOf?_eq_find? (target cs : List Char) :
    blockOf? target cs = (blocksOf cs).find? (hasType target) := by
  fun_induction blockOf? target cs with
  | case1 => rw [blocksOf_nil, List.find?_nil]
  | case2 cs none =>
    rw [blocksOf_of_open, List.find?_nil]
    rintro block rest row ⟨inner, rfl, closes⟩
    have row : inner ++ rest = cs := (List.cons_eq_cons.1 row).2
    rw [(closing?_eq_some_iff Nat.one_pos).2 ⟨row, closes⟩] at none
    cases none
  | case3 cs inner rest found has =>
    obtain ⟨rfl, closes⟩ := (closing?_eq_some_iff Nat.one_pos).1 found
    rw [← List.cons_append, blocksOf_append ⟨inner, rfl, closes⟩, List.find?_cons, has]
  | case4 cs inner rest found hasNot ih =>
    obtain ⟨rfl, closes⟩ := (closing?_eq_some_iff Nat.one_pos).1 found
    rw [← List.cons_append, blocksOf_append ⟨inner, rfl, closes⟩, List.find?_cons, ih]
    simp only [hasNot]
  | case5 c cs other ih => rw [blocksOf_cons_of_ne other, ih]

/-- The blocks of a string in their order. -/
def blocks (s : String) : List String := (blocksOf s.toList).map String.ofList

/-- `block?` is the first of `blocks` that mentions the type. -/
theorem block?_eq_find? (target s : String) : block? target s = (blocks s).find? (mentions target) := by
  have same : mentions target ∘ String.ofList = hasType target.toList := by
    funext cs
    simp only [Function.comp_apply, mentions, String.toList_ofList]
  rw [block?, blocks, List.find?_map, same, blockOf?_eq_find?]

/-- `block?` finds none exactly if none of `blocks` mentions the type. -/
theorem block?_eq_none_iff {target s : String} :
    block? target s = none ↔ ¬ ∃ block ∈ blocks s, mentions target block := by
  simp [block?_eq_find?]

/-- A block in front, one that is nested, and one that does not close. -/
example : blocks "a\x7b1\x7d b\x7b2\x7b3\x7d\x7d\x7b4" = ["\x7b1\x7d", "\x7b2\x7b3\x7d\x7d"] := by
  decide +kernel

end Gazette.LinkedData
