import Gazette.Text
import Mathlib.Data.List.TakeWhile

/-!
# What cleaning keeps of a text

Cleaning a text takes white space out or puts other white space in its place, and `Chars.splitLines` cuts at
white space. So what a property picks out of a text that holds of no white space (`Chars.OverlooksBlanks`), it
picks out of the cleaned text or of its lines as well, in the same order: these are the lemmas
`OverlooksBlanks.filter_cleanParagraph`, `OverlooksBlanks.filter_flatten_splitLines` and the like.
`Unicode.isAlphanumeric` is such a property (`Unicode.overlooksBlanks_isAlphanumeric`), and so
`Text.fingerprint` does not show how a text was cleaned (`Text.fingerprint_clean`,
`Text.fingerprint_concat_splitLines`).
-/

namespace Gazette

namespace Chars

/-! ## Runs -/

/-- A property holds of nothing that `isBlank`. -/
def OverlooksBlanks (p : Char → Bool) : Prop := ∀ c, isBlank c = true → p c = false

/-- A character that `endsLine` takes for a line end is blank. -/
theorem isBlank_of_endsLine {c : Char} (ends : endsLine c = true) : isBlank c = true := by
  simp only [endsLine, isBlank, Bool.or_eq_true, Bool.and_eq_true, decide_eq_true_eq, beq_iff_eq] at ends ⊢
  omega

/-- The pieces of `splitAtChar`, one after the other, are the run without its marks. -/
theorem flatten_splitAtChar (mark : Char) (cs : List Char) :
    (splitAtChar mark cs).flatten = cs.filter (· ≠ mark) := by
  fun_induction splitAtChar mark cs with
  | case1 => rfl
  | case2 cs ih => simpa using ih
  | case3 c cs other none ih =>
    rw [none] at ih
    rw [List.filter_cons_of_pos (by simpa using other), ← ih]
    rfl
  | case4 c cs other piece pieces split ih =>
    rw [split] at ih
    rw [List.filter_cons_of_pos (by simpa using other), ← ih]
    rfl

section Exchanged

variable {old new : Char} {cs : List Char}

/-- With `new` in the place of `old`, a run has no `old`. -/
theorem notMem_exchanged (other : old ≠ new) (cs : List Char) : old ∉ cs.map fun c ↦ if c = old then new else c := by
  intro mem
  obtain ⟨c, -, made⟩ := List.mem_map.1 mem
  split at made
  next => exact other made.symm
  next kept => exact kept made

/-- Where there is no `old`, nothing comes in its place. -/
theorem exchanged_eq_self (absent : old ∉ cs) : (cs.map fun c ↦ if c = old then new else c) = cs :=
  (List.map_congr_left fun _ mem ↦ if_neg (ne_of_mem_of_not_mem mem absent)).trans (List.map_id' cs)

/-- With `new` in the place of `old`, white space stands where it stood, if both are blank or neither is. -/
theorem isBlank_exchanged (same : isBlank old = isBlank new) (c : Char) :
    isBlank (if c = old then new else c) = isBlank c := by
  split
  next here => rw [here, same]
  next => rfl

end Exchanged

variable {p : Char → Bool}

/-- What is picked out of two runs behind one character does not depend on that character. -/
theorem filter_cons_congr (c : Char) {cs ds : List Char} (same : cs.filter p = ds.filter p) :
    (c :: cs).filter p = (c :: ds).filter p := by
  rw [List.filter_cons, same, ← List.filter_cons]

namespace OverlooksBlanks

variable (overlooks : OverlooksBlanks p) (cs : List Char)
include overlooks

/-- A blank character in front is not picked out. -/
theorem filter_cons {c : Char} (blank : isBlank c = true) : (c :: cs).filter p = cs.filter p :=
  List.filter_cons_of_neg (by simp [overlooks c blank])

/-- What `keeps` takes out is blank, so the same is picked out of the rest. -/
theorem filter_filter {keeps : Char → Bool} (blank : ∀ c, keeps c = false → isBlank c = true) :
    (cs.filter keeps).filter p = cs.filter p := by
  rw [List.filter_filter]
  refine List.filter_congr fun c _ ↦ ?_
  cases kept : keeps c with
  | true => simp
  | false => simp [overlooks c (blank c kept)]

/-- With one blank character in the place of another one, the same is picked out. -/
theorem filter_exchanged {old new : Char} (blank_old : isBlank old = true) (blank_new : isBlank new = true) :
    (cs.map fun c ↦ if c = old then new else c).filter p = cs.filter p := by
  induction cs with
  | nil => rfl
  | cons c cs ih =>
    rw [List.map_cons]
    split
    next same => rw [overlooks.filter_cons _ blank_new, ih, same, overlooks.filter_cons _ blank_old]
    next => exact filter_cons_congr c ih

/-- Nothing is picked out of the white space in front. -/
theorem filter_dropWhile : (cs.dropWhile isBlank).filter p = cs.filter p := by
  induction cs with
  | nil => rfl
  | cons c cs ih =>
    rw [List.dropWhile_cons]
    split
    next blank => rw [ih, overlooks.filter_cons _ blank]
    next => rfl

/-- `trim` takes away nothing that is picked out. -/
theorem filter_trim : (trim cs).filter p = cs.filter p := by
  rw [trim, trimBy, trimEndBy, trimStartBy, List.filter_reverse, overlooks.filter_dropWhile, List.filter_reverse,
    List.reverse_reverse, overlooks.filter_dropWhile]

/-- `stripHidden` takes away nothing that is picked out. -/
theorem filter_stripHidden : (stripHidden cs).filter p = cs.filter p :=
  overlooks.filter_filter cs fun _ ends ↦ isBlank_of_endsLine (by simpa using ends)

/-- `collapseSpaces` leaves what is picked out. -/
theorem filter_collapseSpaces : (collapseSpaces cs).filter p = cs.filter p := by
  fun_induction collapseSpaces cs with
  | case1 => rfl
  | case2 c => rfl
  | case3 a b cs blank ih =>
    obtain ⟨blank_a, blank_b⟩ := Bool.and_eq_true_iff.1 blank
    rw [overlooks.filter_cons _ (by decide), ih, overlooks.filter_dropWhile, overlooks.filter_cons _ blank_a,
      overlooks.filter_cons _ blank_b]
  | case4 a b cs visible ih => exact filter_cons_congr a ih

/-- Taking the line feeds out takes away nothing that is picked out. -/
theorem filter_unfed : (cs.filter (· ≠ '\n')).filter p = cs.filter p := by
  refine overlooks.filter_filter cs fun c feed ↦ ?_
  obtain rfl : c = '\n' := by simpa using feed
  decide

/-- `cleanParagraph` leaves what is picked out. -/
theorem filter_cleanParagraph : (cleanParagraph cs).filter p = cs.filter p := by
  rw [cleanParagraph, overlooks.filter_trim, overlooks.filter_collapseSpaces, overlooks.filter_unfed]

/-- `cleanParagraphSpaced` leaves what is picked out. -/
theorem filter_cleanParagraphSpaced : (cleanParagraphSpaced cs).filter p = cs.filter p := by
  rw [cleanParagraphSpaced, overlooks.filter_trim, overlooks.filter_exchanged _ (by decide) (by decide),
    overlooks.filter_collapseSpaces]

/-- `normalizeLines` leaves what is picked out. -/
theorem filter_normalizeLines : (normalizeLines cs).filter p = cs.filter p := by
  induction cs using normalizeLines.induct with
  | case1 => rfl
  | case2 cs ih =>
    rw [normalizeLines, overlooks.filter_cons ('\n' :: cs) (by decide)]
    exact filter_cons_congr '\n' ih
  | case3 c cs notPair ih =>
    rw [normalizeLines.eq_3 _ _ notPair]
    split
    next space => rw [overlooks.filter_cons _ (by decide), ih, space, overlooks.filter_cons _ (by decide)]
    next => exact filter_cons_congr c ih

/-- Pieces that went through `trim`, without the empty ones, hold what is picked out of the pieces. -/
theorem filter_flatten_trimmed (pieces : List (List Char)) :
    ((pieces.map trim).filter fun piece ↦ !piece.isEmpty).flatten.filter p = pieces.flatten.filter p := by
  rw [List.flatten_filter_not_isEmpty]
  induction pieces with
  | nil => rfl
  | cons piece pieces ih =>
    rw [List.map_cons, List.flatten_cons, List.flatten_cons, List.filter_append, List.filter_append, ih,
      overlooks.filter_trim]

/-- The lines of `splitLines` hold, one after the other, what is picked out of the run. -/
theorem filter_flatten_splitLines : (splitLines cs).flatten.filter p = cs.filter p := by
  rw [splitLines, overlooks.filter_flatten_trimmed, flatten_splitAtChar, overlooks.filter_unfed,
    overlooks.filter_normalizeLines]

end OverlooksBlanks

/-- `trim` takes away no visible character. -/
theorem mem_trim {c : Char} (visible : isBlank c = false) (cs : List Char) : c ∈ trim cs ↔ c ∈ cs := by
  have overlooks : OverlooksBlanks (· == c) := by
    intro d blank
    refine beq_eq_false_iff_ne.2 fun same ↦ ?_
    rw [same, visible] at blank
    cases blank
  have picked (ds : List Char) : c ∈ ds ↔ c ∈ ds.filter (· == c) := by simp [List.mem_filter]
  rw [picked (trim cs), overlooks.filter_trim, ← picked]

/-- `trim` leaves nothing of a run of white space, and of no other. -/
theorem trim_eq_nil_iff {cs : List Char} : trim cs = [] ↔ ∀ c ∈ cs, isBlank c := by
  constructor
  · intro none c mem
    refine Bool.of_not_eq_false fun visible ↦ ?_
    rw [← mem_trim visible, none] at mem
    cases mem
  · intro blank
    have front : cs.dropWhile isBlank = [] := List.dropWhile_eq_nil_iff.2 blank
    rw [trim, trimBy, trimStartBy, front]
    rfl

end Chars

/-! ## Letters and numbers -/

/-- The code points of the characters that `isBlank` takes for white space. -/
def Chars.blankPoints : List Nat :=
  [0x09, 0x0A, 0x0B, 0x0C, 0x0D, 0x20, 0x85, 0xA0, 0x1680, 0x2000, 0x2001, 0x2002, 0x2003, 0x2004, 0x2005, 0x2006,
    0x2007, 0x2008, 0x2009, 0x200A, 0x2028, 0x2029, 0x202F, 0x205F, 0x3000]

/-- A blank character has one of the `blankPoints`. -/
theorem Chars.toNat_mem_blankPoints {c : Char} (blank : isBlank c = true) : c.toNat ∈ blankPoints := by
  simp only [isBlank, Bool.or_eq_true, Bool.and_eq_true, decide_eq_true_eq, beq_iff_eq] at blank
  simp only [blankPoints, List.mem_cons, List.not_mem_nil, or_false]
  omega

/-- No white space is a letter or a number. -/
theorem Unicode.overlooksBlanks_isAlphanumeric : Chars.OverlooksBlanks isAlphanumeric := by
  have none : ∀ n ∈ Chars.blankPoints, alphanumericRanges.contains n = false := by decide +kernel
  exact fun c blank ↦ none c.toNat (Chars.toNat_mem_blankPoints blank)

namespace Text

/-- `Text.trim` leaves nothing of white space, and of nothing else. -/
theorem trim_ofList_eq_empty_iff {cs : List Char} : trim (String.ofList cs) = "" ↔ ∀ c ∈ cs, Chars.isBlank c := by
  rw [← Chars.trim_eq_nil_iff, ← String.toList_eq_nil_iff, trim, toList_via, String.toList_ofList]

/-- The ways of cleaning a text. -/
def cleaners : List (String → String) := [stripHidden, collapseSpaces, cleanParagraph, cleanParagraphSpaced]

/-- `fingerprint` goes through two texts one after the other. -/
theorem fingerprint_append (s t : String) : fingerprint (s ++ t) = fingerprint s ++ fingerprint t := by
  simp [fingerprint, via]

/-- `fingerprint` does not show which of the `cleaners` a text went through. -/
theorem fingerprint_clean {clean : String → String} (mem : clean ∈ cleaners) (s : String) :
    fingerprint (clean s) = fingerprint s := by
  have overlooks := Unicode.overlooksBlanks_isAlphanumeric
  simp only [cleaners, List.mem_cons, List.not_mem_nil, or_false] at mem
  unfold fingerprint via
  rcases mem with rfl | rfl | rfl | rfl
  · rw [stripHidden, toList_via, overlooks.filter_stripHidden]
  · rw [collapseSpaces, toList_via, overlooks.filter_collapseSpaces]
  · rw [cleanParagraph, toList_via, overlooks.filter_cleanParagraph]
  · rw [cleanParagraphSpaced, toList_via, overlooks.filter_cleanParagraphSpaced]

/-- `Text.splitLines` gives what `Chars.splitLines` gives of the characters. -/
theorem toList_concat_splitLines (s : String) :
    (concat (splitLines s)).toList = (Chars.splitLines s.toList).flatten := by
  rw [concat, splitLines, String.toList_ofList, List.flatMap_map]
  simp [List.flatMap_def]

/-- `fingerprint` does not show that a text was cut by `splitLines`. -/
theorem fingerprint_concat_splitLines (s : String) : fingerprint (concat (splitLines s)) = fingerprint s := by
  have lines := Unicode.overlooksBlanks_isAlphanumeric.filter_flatten_splitLines s.toList
  rw [fingerprint, via, toList_concat_splitLines, lines, fingerprint, via]

end Text

end Gazette
