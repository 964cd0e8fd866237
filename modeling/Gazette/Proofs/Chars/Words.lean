import Gazette.Proofs.Chars.Edges
import Gazette.Proofs.Chars.Visible
import Mathlib.Data.List.Chain

/-!
# The words of cleaned paragraphs

Both ways of bringing a paragraph to one line, `cleanParagraph` and `cleanParagraphSpaced`, leave it
`Chars.Tidy`: without line feeds, without white space at its ends, and with no more than one character of white
space in a place. They differ in what a line feed is to them. `cleanParagraph` takes it out first, so it parts
no words; `cleanParagraphSpaced` makes it a space last, so it does (`Text.words_cleanParagraph`,
`Text.words_cleanParagraphSpaced`).

The steps of each way could undo one another: `collapseSpaces` and `trim` must not bring back what an earlier
step took away. They do not because `collapseSpaces` puts in nothing but spaces (`mem_of_mem_collapseSpaces`),
and what `trim` leaves stands in the run as it is (`trim_isInfix`).
-/

namespace Gazette

namespace Chars

/-! ## Words -/

/-- The words of a run: what stands between its white space. -/
def words (cs : List Char) : List (List Char) := (cs.splitOnP isBlank).filter fun word ↦ !word.isEmpty

section Words

variable {c : Char}

/-- White space ends a word. -/
theorem words_append_cons (blank : isBlank c = true) (cs ds : List Char) :
    words (cs ++ c :: ds) = words cs ++ words ds := by
  rw [words, List.splitOnP_append_cons cs ds blank, List.filter_append]
  rfl

/-- White space in front of a run belongs to none of its `words`. -/
theorem words_cons (blank : isBlank c = true) (cs : List Char) : words (c :: cs) = words cs :=
  words_append_cons blank [] cs

/-- White space behind a run belongs to none of its `words`. -/
theorem words_concat (blank : isBlank c = true) (cs : List Char) : words (cs ++ [c]) = words cs :=
  (words_append_cons blank cs []).trans (List.append_nil _)

/-- Without the white space in front a run has the same `words`. -/
theorem words_dropWhile (cs : List Char) : words (cs.dropWhile isBlank) = words cs := by
  induction cs with
  | nil => rfl
  | cons c cs ih =>
    rw [List.dropWhile_cons]
    split
    next blank => rw [ih, words_cons blank]
    next => rfl

/-- Without the white space behind it a run has the same `words`. -/
theorem words_rdropWhile (cs : List Char) : words (cs.rdropWhile isBlank) = words cs := by
  induction cs using List.reverseRecOn with
  | nil => rfl
  | append_singleton cs c ih =>
    rw [List.rdropWhile_concat]
    split
    next blank => rw [ih, words_concat blank]
    next => rfl

/-- `trim` keeps the `words`. -/
theorem words_trim (cs : List Char) : words (trim cs) = words cs :=
  (words_rdropWhile (cs.dropWhile isBlank)).trans (words_dropWhile cs)

/-- `collapseSpaces` keeps the `words`, also one that begins in `front`. -/
theorem words_append_collapseSpaces (front cs : List Char) :
    words (front ++ collapseSpaces cs) = words (front ++ cs) := by
  fun_induction collapseSpaces cs generalizing front with
  | case1 => rfl
  | case2 c => rfl
  | case3 a b cs blank ih =>
    obtain ⟨blank_a, blank_b⟩ := Bool.and_eq_true_iff.1 blank
    have behind : words (collapseSpaces (cs.dropWhile isBlank)) = words cs := (ih []).trans (words_dropWhile cs)
    rw [words_append_cons (by decide), behind, words_append_cons blank_a, words_cons blank_b]
  | case4 a b cs _ ih => rw [List.append_cons, ih, ← List.append_cons]

/-- One blank character in the place of another one keeps the `words`, also one that begins in `front`. -/
theorem words_append_exchanged {old new : Char} (blank_old : isBlank old = true) (blank_new : isBlank new = true)
    (front cs : List Char) : words (front ++ cs.map fun c ↦ if c = old then new else c) = words (front ++ cs) := by
  induction cs generalizing front with
  | nil => rfl
  | cons c cs ih =>
    rw [List.map_cons]
    split
    next same =>
      have behind : words (cs.map fun c ↦ if c = old then new else c) = words cs := ih []
      rw [same, words_append_cons blank_new, words_append_cons blank_old, behind]
    next => rw [List.append_cons, ih, ← List.append_cons]

/-- `Chars.cleanParagraphSpaced` keeps the `words`. -/
theorem words_cleanParagraphSpaced (cs : List Char) : words (cleanParagraphSpaced cs) = words cs := by
  have spaced := words_append_exchanged (show isBlank '\n' = true by decide) (show isBlank ' ' = true by decide) []
  rw [cleanParagraphSpaced, words_trim]
  exact (spaced (collapseSpaces cs)).trans (words_append_collapseSpaces [] cs)

/-- `Chars.cleanParagraph` keeps the `words` that a run has without its line feeds. -/
theorem words_cleanParagraph (cs : List Char) : words (cleanParagraph cs) = words (cs.filter (· ≠ '\n')) := by
  rw [cleanParagraph, words_trim]
  exact words_append_collapseSpaces [] _

end Words

/-! ## Tidy runs -/

/-- No two characters of a run that stand side by side are both white space. -/
def Apart (cs : List Char) : Prop := cs.IsChain fun a b ↦ ¬ (isBlank a ∧ isBlank b)

instance (cs : List Char) : Decidable (Apart cs) :=
  inferInstanceAs (Decidable (cs.IsChain fun a b ↦ ¬ (isBlank a ∧ isBlank b)))

/-- A run in the form that cleaning brings it to: it is `Trimmed` and `Apart`, and has no line feed. -/
structure Tidy (cs : List Char) : Prop extends Trimmed cs where
  /-- It has no line feeds. -/
  unfed : '\n' ∉ cs
  /-- It has no more than one character of white space in a place. -/
  apart : Apart cs

instance (cs : List Char) : Decidable (Tidy cs) :=
  decidable_of_iff (Trimmed cs ∧ '\n' ∉ cs ∧ Apart cs)
    ⟨fun ⟨ends, unfed, apart⟩ ↦ ⟨ends, unfed, apart⟩, fun h ↦ ⟨h.toTrimmed, h.unfed, h.apart⟩⟩

section Tidy

variable {cs : List Char} {c : Char}

/-- `collapseSpaces` leaves white space in front exactly where white space was in front. -/
theorem exists_head?_of_collapseSpaces (first : c ∈ (collapseSpaces cs).head?) :
    ∃ d ∈ cs.head?, isBlank d = isBlank c := by
  revert first
  fun_cases collapseSpaces cs with
  | case1 =>
    intro first
    cases first
  | case2 a => exact fun first ↦ ⟨c, first, rfl⟩
  | case3 a b cs blank =>
    intro first
    cases first
    exact ⟨a, rfl, (Bool.and_eq_true_iff.1 blank).1⟩
  | case4 a b cs _ => exact fun first ↦ ⟨c, first, rfl⟩

/-- `collapseSpaces` leaves a run `Apart`. -/
theorem apart_collapseSpaces (cs : List Char) : Apart (collapseSpaces cs) := by
  fun_induction collapseSpaces cs with
  | case1 => exact .nil
  | case2 c => exact .singleton c
  | case3 a b cs _ ih =>
    -- The white space behind the two is dropped before the rest is collapsed, so the rest begins with none.
    refine ih.cons fun c first ↦ ?_
    obtain ⟨d, front, same⟩ := exists_head?_of_collapseSpaces first
    simp [← same, not_of_mem_head?_dropWhile front]
  | case4 a b cs parted ih =>
    refine ih.cons fun c first ↦ ?_
    obtain ⟨d, front, same⟩ := exists_head?_of_collapseSpaces first
    obtain rfl : b = d := Option.some.inj front
    rw [← same]
    simpa using parted

/-- `collapseSpaces` puts in nothing but spaces. -/
theorem mem_of_mem_collapseSpaces (mem : c ∈ collapseSpaces cs) : c = ' ' ∨ c ∈ cs := by
  fun_induction collapseSpaces cs with
  | case1 => exact .inr mem
  | case2 => exact .inr mem
  | case3 a b cs _ ih =>
    rcases List.mem_cons.1 mem with space | later
    · exact .inl space
    · refine (ih later).imp_right fun rest ↦ ?_
      exact List.mem_cons_of_mem a (List.mem_cons_of_mem b ((List.dropWhile_sublist isBlank).mem rest))
  | case4 a b cs _ ih =>
    rcases List.mem_cons.1 mem with rfl | later
    · exact .inr List.mem_cons_self
    · exact (ih later).imp_right (List.mem_cons_of_mem a)

/-- `collapseSpaces` leaves a run as it is that is `Apart`. -/
theorem Apart.collapseSpaces_eq (h : Apart cs) : collapseSpaces cs = cs := by
  fun_induction collapseSpaces cs with
  | case1 => rfl
  | case2 c => rfl
  | case3 a b cs blank _ => exact absurd (Bool.and_eq_true_iff.1 blank) (List.isChain_cons_cons.1 h).1
  | case4 a b cs _ ih => rw [ih (List.isChain_cons_cons.1 h).2]

/-- With `new` in the place of `old` a run stays `Apart`, if both are blank or neither is. -/
theorem Apart.exchanged {old new : Char} (same : isBlank old = isBlank new) (h : Apart cs) :
    Apart (cs.map fun c ↦ if c = old then new else c) := by
  refine (List.isChain_map _).2 (h.imp fun a b parted ↦ ?_)
  rwa [isBlank_exchanged same, isBlank_exchanged same]

/-- `trim` is the last step to a `Tidy` run. -/
theorem tidy_trim (unfed : '\n' ∉ cs) (apart : Apart cs) : Tidy (trim cs) where
  toTrimmed := trimmed_trim cs
  unfed mem := unfed ((trim_isInfix cs).subset mem)
  apart := apart.infix (trim_isInfix cs)

/-- `Chars.cleanParagraph` makes a run `Tidy`. -/
theorem tidy_cleanParagraph (cs : List Char) : Tidy (cleanParagraph cs) := by
  refine tidy_trim (fun mem ↦ ?_) (apart_collapseSpaces _)
  rcases mem_of_mem_collapseSpaces mem with space | kept
  · cases space
  · simp at kept

/-- `Chars.cleanParagraphSpaced` makes a run `Tidy`. -/
theorem tidy_cleanParagraphSpaced (cs : List Char) : Tidy (cleanParagraphSpaced cs) :=
  tidy_trim (notMem_exchanged (by decide) _) ((apart_collapseSpaces cs).exchanged (by decide))

/-- `Chars.cleanParagraph` leaves a `Tidy` run as it is. -/
theorem Tidy.cleanParagraph_eq (h : Tidy cs) : cleanParagraph cs = cs := by
  have kept : cs.filter (· ≠ '\n') = cs :=
    List.filter_eq_self.2 fun c mem ↦ decide_eq_true (ne_of_mem_of_not_mem mem h.unfed)
  rw [cleanParagraph, kept, h.apart.collapseSpaces_eq, h.trim_eq]

/-- `Chars.cleanParagraphSpaced` leaves a `Tidy` run as it is. -/
theorem Tidy.cleanParagraphSpaced_eq (h : Tidy cs) : cleanParagraphSpaced cs = cs := by
  rw [cleanParagraphSpaced, h.apart.collapseSpaces_eq, exchanged_eq_self h.unfed, h.trim_eq]

end Tidy

end Chars

namespace Text

/-- The words of a text: the `Chars.words` of its characters. -/
def words (s : String) : List String := (Chars.words s.toList).map String.ofList

/-- Where `f` makes runs `Chars.Tidy` and leaves those alone, `via f` leaves alone the texts that are
`Chars.Tidy`. -/
theorem via_eq_self_iff {f : List Char → List Char} (tidies : ∀ cs, Chars.Tidy (f cs))
    (keeps : ∀ cs, Chars.Tidy cs → f cs = cs) (s : String) : via f s = s ↔ Chars.Tidy s.toList := by
  constructor
  · intro same
    rw [← same, toList_via]
    exact tidies s.toList
  · intro tidy
    rw [via, keeps s.toList tidy, String.ofList_toList]

/-- `cleanParagraphSpaced` makes a text `Chars.Tidy`. -/
theorem tidy_cleanParagraphSpaced (s : String) : Chars.Tidy (cleanParagraphSpaced s).toList := by
  rw [cleanParagraphSpaced, toList_via]
  exact Chars.tidy_cleanParagraphSpaced s.toList

/-- `cleanParagraph` makes a text `Chars.Tidy`. -/
theorem tidy_cleanParagraph (s : String) : Chars.Tidy (cleanParagraph s).toList := by
  rw [cleanParagraph, toList_via]
  exact Chars.tidy_cleanParagraph s.toList

/-- What `cleanParagraphSpaced` leaves as it is are the `Chars.Tidy` texts. -/
theorem cleanParagraphSpaced_eq_self_iff (s : String) : cleanParagraphSpaced s = s ↔ Chars.Tidy s.toList :=
  via_eq_self_iff Chars.tidy_cleanParagraphSpaced (fun _ ↦ Chars.Tidy.cleanParagraphSpaced_eq) s

/-- What `cleanParagraph` leaves as it is are the `Chars.Tidy` texts. -/
theorem cleanParagraph_eq_self_iff (s : String) : cleanParagraph s = s ↔ Chars.Tidy s.toList :=
  via_eq_self_iff Chars.tidy_cleanParagraph (fun _ ↦ Chars.Tidy.cleanParagraph_eq) s

/-- `cleanParagraphSpaced` keeps the `words` of a text. -/
theorem words_cleanParagraphSpaced (s : String) : words (cleanParagraphSpaced s) = words s := by
  rw [words, cleanParagraphSpaced, toList_via, Chars.words_cleanParagraphSpaced, words]

/-- `cleanParagraph` keeps the `words` that a text has without its line feeds. -/
theorem words_cleanParagraph (s : String) :
    words (cleanParagraph s) = words (String.ofList (s.toList.filter (· ≠ '\n'))) := by
  rw [words, cleanParagraph, toList_via, Chars.words_cleanParagraph, words, String.toList_ofList]

/-- `cleanParagraphSpaced` and `cleanParagraph` make a paragraph `Chars.Tidy`, so that it stays as it is the next
time. Its `words` are those that it had, to the first one with the line feeds between them, to the second one
without. -/
theorem cleanParagraph_tidy_idempotent_words (s : String) :
    (Chars.Tidy (cleanParagraphSpaced s).toList ∧ Chars.Tidy (cleanParagraph s).toList) ∧
    (cleanParagraphSpaced (cleanParagraphSpaced s) = cleanParagraphSpaced s ∧
      cleanParagraph (cleanParagraph s) = cleanParagraph s) ∧
    ((cleanParagraphSpaced s = s ↔ Chars.Tidy s.toList) ∧ (cleanParagraph s = s ↔ Chars.Tidy s.toList)) ∧
    words (cleanParagraphSpaced s) = words s ∧
    words (cleanParagraph s) = words (String.ofList (s.toList.filter (· ≠ '\n'))) :=
  ⟨⟨tidy_cleanParagraphSpaced s, tidy_cleanParagraph s⟩,
    ⟨(cleanParagraphSpaced_eq_self_iff _).2 (tidy_cleanParagraphSpaced s),
      (cleanParagraph_eq_self_iff _).2 (tidy_cleanParagraph s)⟩,
    ⟨cleanParagraphSpaced_eq_self_iff s, cleanParagraph_eq_self_iff s⟩,
    words_cleanParagraphSpaced s, words_cleanParagraph s⟩

example : cleanParagraphSpaced " 甲\n乙 \n\t丙\u3000丁" = "甲 乙 丙\u3000丁" ∧
    cleanParagraph " 甲\n乙 \n\t丙\u3000丁" = "甲乙 丙\u3000丁" := by decide +kernel

end Text

end Gazette
