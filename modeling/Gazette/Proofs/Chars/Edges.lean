import Gazette.Text
import Mathlib.Data.List.DropRight

/-!
# Text without white space at its ends

`Chars.trim` leaves a run that neither begins nor ends with white space (`Chars.Trimmed`), and each way of
cleaning a paragraph (`Text.cleanParagraph`, `Text.cleanParagraphSpaced`) either ends in trimming or, as
`Chars.collapseSpaces` does, leaves the two ends of a trimmed run alone. `Text.Neat` is what a paragraph or a
name should be: such a text, and not the empty one.
-/

namespace Gazette

namespace Chars

/-- A run has no white space at its ends: neither its `head?` nor its `getLast?` is blank. -/
structure Trimmed (cs : List Char) : Prop where
  /-- It does not begin with white space. -/
  head : ∀ c ∈ cs.head?, isBlank c = false
  /-- It does not end with white space. -/
  last : ∀ c ∈ cs.getLast?, isBlank c = false

instance (cs : List Char) : Decidable (Trimmed cs) :=
  haveI := Option.decidableForallMem cs.head? (p := fun c ↦ isBlank c = false)
  haveI := Option.decidableForallMem cs.getLast? (p := fun c ↦ isBlank c = false)
  decidable_of_iff
    ((∀ c ∈ cs.head?, isBlank c = false) ∧ ∀ c ∈ cs.getLast?, isBlank c = false)
    ⟨fun h ↦ ⟨h.1, h.2⟩, fun h ↦ ⟨h.head, h.last⟩⟩

/-- What `List.dropWhile` leaves begins with a character that does not satisfy `p`. -/
theorem not_of_mem_head?_dropWhile {p : Char → Bool} {cs : List Char} {c : Char}
    (h : c ∈ (cs.dropWhile p).head?) : p c = false := by
  have stop := List.head?_dropWhile_not p cs
  rw [Option.mem_def.1 h] at stop
  exact stop

/-- `trim` leaves a `Trimmed` run. -/
theorem trimmed_trim (cs : List Char) : Trimmed (trim cs) where
  head c hc := by
    -- The back is cut last, which leaves the front of what is not cut away.
    obtain ⟨rest, front⟩ := List.rdropWhile_prefix isBlank (cs.dropWhile isBlank)
    have first : (cs.dropWhile isBlank).head? = some c := by
      rw [← front, List.head?_append]
      exact Option.or_eq_some_iff.2 (.inl hc)
    exact not_of_mem_head?_dropWhile first
  last c hc := by
    have first : c ∈ ((cs.dropWhile isBlank).reverse.dropWhile isBlank).head? := by
      rw [← List.getLast?_reverse]
      exact hc
    exact not_of_mem_head?_dropWhile first

/-- `List.dropWhile` leaves a run that does not begin with a character that satisfies `p`. -/
theorem dropWhile_eq_self {p : Char → Bool} {cs : List Char} (h : ∀ c ∈ cs.head?, p c = false) :
    cs.dropWhile p = cs := by
  cases cs with
  | nil => rfl
  | cons c cs => exact List.dropWhile_cons_of_neg (by simp [h c rfl])

/-- `trim` leaves a `Trimmed` run as it is. -/
theorem Trimmed.trim_eq {cs : List Char} (h : Trimmed cs) : trim cs = cs := by
  have back : cs.reverse.dropWhile isBlank = cs.reverse :=
    dropWhile_eq_self fun c mem ↦ h.last c (by rwa [List.head?_reverse] at mem)
  rw [trim, trimBy, trimEndBy, trimStartBy, dropWhile_eq_self h.head, back, List.reverse_reverse]

/-- What `trim` leaves stands in the run in one piece. -/
theorem trim_isInfix (cs : List Char) : trim cs <:+: cs :=
  (List.rdropWhile_prefix isBlank _).isInfix.trans (List.dropWhile_suffix isBlank).isInfix

/-- `trim` takes away white space that is put behind a run. -/
theorem trim_concat {c : Char} (blank : isBlank c = true) (cs : List Char) : trim (cs ++ [c]) = trim cs := by
  rw [trim, trim, trimBy, trimBy, trimStartBy, trimStartBy, List.dropWhile_append]
  split
  next none =>
    rw [List.isEmpty_iff.1 none, List.dropWhile_cons_of_pos blank]
    rfl
  next => exact List.rdropWhile_concat_pos _ _ _ blank

/-- A run that ends with something visible ends so without the white space at its front, too. -/
theorem getLast?_dropWhile_isBlank {cs : List Char} {c : Char} (h : cs.getLast? = some c)
    (visible : isBlank c = false) : (cs.dropWhile isBlank).getLast? = some c := by
  obtain ⟨before, rfl⟩ := List.getLast?_eq_some_iff.1 h
  rw [List.dropWhile_append]
  split
  · simp [visible]
  · exact List.getLast?_concat

/-- `collapseSpaces` leaves a visible first character where it is. -/
theorem head?_collapseSpaces {cs : List Char} {c : Char} (h : cs.head? = some c)
    (visible : isBlank c = false) : (collapseSpaces cs).head? = some c := by
  fun_cases collapseSpaces cs with
  | case1 => cases h
  | case2 a => exact h
  | case3 a b cs blank =>
    cases h
    simp [visible] at blank
  | case4 a b cs blank => exact h

/-- The last of several characters is the last of those behind the first one. -/
theorem getLast?_cons_of_getLast? {cs : List Char} {c : Char} (a : Char) (h : cs.getLast? = some c) :
    (a :: cs).getLast? = some c := by
  rw [List.getLast?_cons, h]
  rfl

/-- `collapseSpaces` leaves a visible last character where it is. -/
theorem getLast?_collapseSpaces {cs : List Char} {c : Char} (h : cs.getLast? = some c)
    (visible : isBlank c = false) : (collapseSpaces cs).getLast? = some c := by
  fun_induction collapseSpaces cs with
  | case1 => cases h
  | case2 a => exact h
  | case3 a b cs blank ih =>
    -- What ends in something visible goes on behind the white space in front.
    have behind : cs.getLast? = some c := by
      cases cs with
      | nil =>
        obtain rfl : b = c := Option.some.inj h
        simp [visible] at blank
      | cons d ds =>
        rw [List.getLast?_cons_cons, List.getLast?_cons_cons] at h
        exact h
    exact getLast?_cons_of_getLast? ' ' (ih (getLast?_dropWhile_isBlank behind visible))
  | case4 a b cs blank ih =>
    rw [List.getLast?_cons_cons] at h
    exact getLast?_cons_of_getLast? a (ih h)

/-- `collapseSpaces` leaves a `Trimmed` run `Trimmed`. -/
theorem Trimmed.collapseSpaces {cs : List Char} (h : Trimmed cs) :
    Trimmed (collapseSpaces cs) := by
  cases first : cs.head? with
  | none =>
    obtain rfl := List.head?_eq_none_iff.1 first
    unfold Chars.collapseSpaces
    exact h
  | some a =>
    obtain ⟨z, last⟩ : ∃ z, cs.getLast? = some z := by
      cases cs with
      | nil => cases first
      | cons b bs => exact ⟨_, List.getLast?_cons⟩
    have front := head?_collapseSpaces first (h.head a first)
    have back := getLast?_collapseSpaces last (h.last z last)
    refine ⟨fun c hc ↦ ?_, fun c hc ↦ ?_⟩
    · obtain rfl : a = c := Option.some.inj (front.symm.trans hc)
      exact h.head a first
    · obtain rfl : z = c := Option.some.inj (back.symm.trans hc)
      exact h.last z last

end Chars

namespace Text

/-- A text is not empty, and it is `Chars.Trimmed`. -/
structure Neat (s : String) : Prop where
  /-- It is not empty. -/
  nonempty : s ≠ ""
  /-- It has no white space at its ends. -/
  trimmed : Chars.Trimmed s.toList

instance (s : String) : Decidable (Neat s) :=
  decidable_of_iff (s ≠ "" ∧ Chars.Trimmed s.toList) ⟨fun h ↦ ⟨h.1, h.2⟩, fun h ↦ ⟨h.1, h.2⟩⟩

/-- `Text.trim` is `Chars.trim` on the characters. -/
theorem toList_trim (s : String) : (trim s).toList = Chars.trim s.toList := toList_via Chars.trim s

/-- `Text.trim` leaves a `Chars.Trimmed` text. -/
theorem trimmed_trim (s : String) : Chars.Trimmed (trim s).toList := by
  rw [toList_trim]
  exact Chars.trimmed_trim s.toList

/-- `cleanParagraph` leaves a `Chars.Trimmed` text. -/
theorem trimmed_cleanParagraph (s : String) : Chars.Trimmed (cleanParagraph s).toList := by
  rw [cleanParagraph, toList_via]
  exact Chars.trimmed_trim _

/-- `cleanParagraphSpaced` leaves a `Chars.Trimmed` text. -/
theorem trimmed_cleanParagraphSpaced (s : String) :
    Chars.Trimmed (cleanParagraphSpaced s).toList := by
  rw [cleanParagraphSpaced, toList_via]
  exact Chars.trimmed_trim _

/-- `collapseSpaces` behind `trim` leaves a `Chars.Trimmed` text. -/
theorem trimmed_collapseSpaces_trim (s : String) :
    Chars.Trimmed (collapseSpaces (trim s)).toList := by
  rw [collapseSpaces, toList_via]
  exact (trimmed_trim s).collapseSpaces

/-- Where `clean` leaves `Chars.Trimmed` texts, what it makes of a list is `Neat` but for the empty ones. -/
theorem neat_of_mem_filter {α : Type} {clean : α → String}
    (trims : ∀ x, Chars.Trimmed (clean x).toList) {l : List α} {t : String}
    (h : t ∈ (l.map clean).filter fun t ↦ !t.isEmpty) : Neat t := by
  obtain ⟨mem, full⟩ := List.mem_filter.1 h
  obtain ⟨x, -, rfl⟩ := List.mem_map.1 mem
  refine ⟨fun empty ↦ ?_, trims x⟩
  rw [empty] at full
  exact absurd full (by decide)

/-- What `splitLines` gives is `Neat`. -/
theorem neat_of_mem_splitLines {s line : String} (h : line ∈ splitLines s) : Neat line := by
  obtain ⟨cs, mem, rfl⟩ := List.mem_map.1 h
  obtain ⟨mem, full⟩ := List.mem_filter.1 mem
  obtain ⟨raw, -, rfl⟩ := List.mem_map.1 mem
  refine ⟨fun empty ↦ ?_, ?_⟩
  · rw [String.ofList_eq_empty_iff.1 empty] at full
    exact absurd full (by decide)
  · rw [String.toList_ofList]
    exact Chars.trimmed_trim raw

end Text

end Gazette
