import Gazette.Proofs.Chars.Edges
import Gazette.Proofs.Chars.Pieces
import Gazette.Proofs.Chars.Visible

/-!
# The lines of a text

`splitLines` cuts a text at its line feeds and its non-breaking spaces. What `normalizeLines` does to a carriage
return in front of a line feed makes no difference: it would be white space at the end of a line, and lines are
trimmed (`Chars.splitLines_eq`). So a text that is cut in two at a line break has the lines of the one part and
then those of the other (`Chars.splitLines_append_cons`), and white space behind a text adds nothing to its
lines (`Chars.splitLines_concat`).

From these two laws it follows that lines do not show how the line breaks were written (`Chars.Rebroken`). A row
of texts that can be lines each (`Chars.IsLine`) comes back if it is joined by line feeds, and what a text is
cut into is such a row. `Text.splitLines_isLine_roundtrip_rebroken` puts all of this together.
-/

namespace Gazette

namespace Chars

/-! ## Cutting into lines -/

/-- `normalizeLines` is to `replace` a carriage return and the line feed behind it by the line feed, and then each
non-breaking space by a line feed. -/
theorem normalizeLines_eq_replace (cs : List Char) :
    normalizeLines cs = replace ['\u00a0'] ['\n'] (replace ['\r', '\n'] ['\n'] cs) := by
  induction cs using normalizeLines.induct with
  | case1 => decide +kernel
  | case2 cs ih =>
    have pair : replace ['\r', '\n'] ['\n'] ('\r' :: '\n' :: cs) = '\n' :: replace ['\r', '\n'] ['\n'] cs :=
      replace_append '\r' '\n' [] ['\n'] cs
    rw [normalizeLines, ih, pair, replace_cons, if_neg (by decide), List.singleton_append]
  | case3 c cs notPair ih =>
    have other : after? ['\r', '\n'] (c :: cs) = none := by
      refine Option.eq_none_iff_forall_ne_some.2 fun rest found ↦ ?_
      obtain ⟨rfl, rfl⟩ := List.cons.inj (append_of_after? found)
      exact notPair rest rfl rfl
    rw [normalizeLines.eq_3 _ _ notPair, ih, replace_cons_of_none other, replace_cons]
    split <;> rfl

/-- The pieces of a run between its line feeds, each through `trim`, without the empty ones. -/
def trimmedPieces (cs : List Char) : List (List Char) :=
  ((splitAtChar '\n' cs).map trim).filter fun line ↦ !line.isEmpty

/-- A run with a line feed for each of its non-breaking spaces. -/
def fed (cs : List Char) : List Char := cs.map fun c ↦ if c = '\u00a0' then '\n' else c

/-- Two runs with a line feed between them have the `trimmedPieces` of both. -/
theorem trimmedPieces_append_cons (cs ds : List Char) :
    trimmedPieces (cs ++ '\n' :: ds) = trimmedPieces cs ++ trimmedPieces ds := by
  rw [trimmedPieces, splitAtChar_append_cons, List.map_append, List.filter_append]
  rfl

/-- White space behind a run adds nothing to its `trimmedPieces`. -/
theorem trimmedPieces_concat {c : Char} (blank : isBlank c = true) (cs : List Char) :
    trimmedPieces (cs ++ [c]) = trimmedPieces cs := by
  by_cases feed : c = '\n'
  · rw [feed, trimmedPieces_append_cons]
    exact List.append_nil _
  · -- It goes to the last piece, at whose end it is trimmed away.
    rcases List.eq_nil_or_concat (splitAtChar '\n' cs) with none | ⟨pieces, last, row⟩
    · exact absurd none (splitAtChar_ne_nil '\n' cs)
    · rw [List.concat_eq_append] at row
      have alone : splitAtChar '\n' [c] = [[c]] := splitAtChar_of_notMem (by simpa using Ne.symm feed)
      rw [trimmedPieces, trimmedPieces, splitAtChar_append row alone, row, List.map_append, List.map_append,
        List.map_singleton, List.map_singleton, trim_concat blank]

/-- The carriage returns that `normalizeLines` takes out in front of line feeds change no piece, also not one that
begins in `front`. -/
theorem trimmedPieces_append_normalizeLines (front cs : List Char) :
    trimmedPieces (front ++ normalizeLines cs) = trimmedPieces (front ++ fed cs) := by
  induction cs using normalizeLines.induct generalizing front with
  | case1 => rfl
  | case2 cs ih =>
    have row : front ++ fed ('\r' :: '\n' :: cs) = (front ++ ['\r']) ++ '\n' :: fed cs := by simp [fed]
    have behind : trimmedPieces (normalizeLines cs) = trimmedPieces (fed cs) := ih []
    rw [normalizeLines, row, trimmedPieces_append_cons, trimmedPieces_append_cons, trimmedPieces_concat (by decide),
      behind]
  | case3 c cs notPair ih =>
    rw [normalizeLines.eq_3 _ _ notPair, List.append_cons, ih, fed, fed, List.map_cons, ← List.append_cons]

/-- `splitLines` gives the `trimmedPieces` between line feeds and non-breaking spaces. -/
theorem splitLines_eq (cs : List Char) : splitLines cs = trimmedPieces (fed cs) :=
  trimmedPieces_append_normalizeLines [] cs

/-- The characters at which `splitLines` cuts: the line feed and the non-breaking space. -/
def breaks : List Char := ['\n', '\u00a0']

/-- Two runs with one of the `breaks` between them have the lines of both. -/
theorem splitLines_append_cons {c : Char} (mem : c ∈ breaks) (cs ds : List Char) :
    splitLines (cs ++ c :: ds) = splitLines cs ++ splitLines ds := by
  have feed : fed (cs ++ c :: ds) = fed cs ++ '\n' :: fed ds := by
    simp only [breaks, List.mem_cons, List.not_mem_nil, or_false] at mem
    rcases mem with rfl | rfl <;> simp [fed]
  rw [splitLines_eq, feed, trimmedPieces_append_cons, splitLines_eq, splitLines_eq]

/-- White space behind a run adds nothing to its lines. -/
theorem splitLines_concat {c : Char} (blank : isBlank c = true) (cs : List Char) :
    splitLines (cs ++ [c]) = splitLines cs := by
  have blank_fed : isBlank (if c = '\u00a0' then '\n' else c) = true := (isBlank_exchanged (by decide) c).trans blank
  rw [splitLines_eq, fed, List.map_append, List.map_singleton, trimmedPieces_concat blank_fed, splitLines_eq, fed]

/-! ## Line breaks written in another way -/

/-- A run with some of its line feeds, any number of them at any places, written in another way. -/
inductive Rebroken : List Char → List Char → Prop
  /-- Nothing has nothing to write. -/
  | nil : Rebroken [] []
  /-- A character stays, also a line feed. -/
  | keep (c : Char) {cs ds : List Char} (more : Rebroken cs ds) : Rebroken (c :: cs) (c :: ds)
  /-- A line feed gets a carriage return in front. -/
  | pair {cs ds : List Char} (more : Rebroken cs ds) : Rebroken ('\n' :: cs) ('\r' :: '\n' :: ds)
  /-- A line feed becomes a non-breaking space. -/
  | space {cs ds : List Char} (more : Rebroken cs ds) : Rebroken ('\n' :: cs) ('\u00a0' :: ds)

/-- How line breaks are written does not show in `splitLines`, whatever stands in `front`. -/
theorem Rebroken.splitLines_append {cs ds : List Char} (h : Rebroken cs ds) (front : List Char) :
    splitLines (front ++ ds) = splitLines (front ++ cs) := by
  induction h generalizing front with
  | nil => rfl
  | keep c _ ih => rw [List.append_cons, ih, ← List.append_cons]
  | @pair cs ds _ ih =>
    have behind : splitLines ds = splitLines cs := ih []
    rw [List.append_cons, splitLines_append_cons (by decide), splitLines_concat (by decide), behind,
      splitLines_append_cons (by decide)]
  | @space cs ds _ ih =>
    have behind : splitLines ds = splitLines cs := ih []
    rw [splitLines_append_cons (by decide), splitLines_append_cons (by decide), behind]

/-! ## Lines -/

/-- A run can be a line of a text: it is `Trimmed`, not empty, and has none of the `breaks`. -/
structure IsLine (cs : List Char) : Prop extends Trimmed cs where
  /-- It is not empty. -/
  nonempty : cs ≠ []
  /-- It has no line breaks. -/
  unbroken : ∀ c ∈ breaks, c ∉ cs

instance (cs : List Char) : Decidable (IsLine cs) :=
  haveI := List.decidableBAll (fun c ↦ c ∉ cs) breaks
  decidable_of_iff (Trimmed cs ∧ cs ≠ [] ∧ ∀ c ∈ breaks, c ∉ cs)
    ⟨fun ⟨ends, nonempty, unbroken⟩ ↦ ⟨ends, nonempty, unbroken⟩, fun h ↦ ⟨h.toTrimmed, h.nonempty, h.unbroken⟩⟩

/-- What `Chars.splitLines` gives are lines: `IsLine`. -/
theorem isLine_of_mem_splitLines {cs line : List Char} (mem : line ∈ splitLines cs) : IsLine line := by
  rw [splitLines_eq] at mem
  obtain ⟨mem, full⟩ := List.mem_filter.1 mem
  obtain ⟨piece, stands, rfl⟩ := List.mem_map.1 mem
  refine ⟨trimmed_trim piece, by simpa using full, fun c isBreak inside ↦ ?_⟩
  -- A character of a piece is one of the run, and none that the run is cut at.
  have kept : c ∈ (fed cs).filter (· ≠ '\n') := by
    rw [← flatten_splitAtChar]
    exact List.mem_flatten_of_mem stands ((trim_isInfix piece).subset inside)
  obtain ⟨held, notFeed⟩ := List.mem_filter.1 kept
  simp only [breaks, List.mem_cons, List.not_mem_nil, or_false] at isBreak
  rcases isBreak with rfl | rfl
  · simp at notFeed
  · exact notMem_exchanged (by decide) cs held

/-- A run that can be a line is its only line. -/
theorem IsLine.splitLines_eq {cs : List Char} (h : IsLine cs) : splitLines cs = [cs] := by
  have whole : fed cs = cs := exchanged_eq_self (h.unbroken '\u00a0' (by decide))
  rw [Chars.splitLines_eq, whole, trimmedPieces, splitAtChar_of_notMem (h.unbroken '\n' (by decide)),
    List.map_singleton, h.trim_eq]
  simp [h.nonempty]

/-- `Chars.splitLines` undoes `joinWith` where each part `IsLine`. -/
theorem splitLines_joinWith {lines : List (List Char)} (each : ∀ line ∈ lines, IsLine line) :
    splitLines (joinWith ['\n'] lines) = lines := by
  fun_induction joinWith ['\n'] lines with
  | case1 => rfl
  | case2 line => exact (List.forall_mem_singleton.1 each).splitLines_eq
  | case3 line lines _ ih =>
    obtain ⟨first, others⟩ := List.forall_mem_cons.1 each
    rw [List.append_assoc, List.singleton_append, splitLines_append_cons (by decide), first.splitLines_eq, ih others,
      List.singleton_append]

end Chars

namespace Text

/-- `Text.splitLines` undoes `joinWith` where each part is a `Chars.IsLine`. -/
theorem splitLines_joinWith {lines : List String} (each : ∀ line ∈ lines, Chars.IsLine line.toList) :
    splitLines (joinWith "\n" lines) = lines := by
  have runs : Chars.splitLines (Chars.joinWith ['\n'] (lines.map String.toList)) = lines.map String.toList :=
    Chars.splitLines_joinWith (List.forall_mem_map.2 each)
  have joined : (joinWith "\n" lines).toList = Chars.joinWith ['\n'] (lines.map String.toList) := String.toList_ofList
  rw [splitLines, joined, runs, List.map_map]
  exact (List.map_congr_left fun line _ ↦ String.ofList_toList).trans (List.map_id' lines)

/-- What `Text.splitLines` gives are lines: `Chars.IsLine`. -/
theorem isLine_of_mem_splitLines {s line : String} (mem : line ∈ splitLines s) : Chars.IsLine line.toList := by
  obtain ⟨cs, stands, rfl⟩ := List.mem_map.1 mem
  rw [String.toList_ofList]
  exact Chars.isLine_of_mem_splitLines stands

/-- What `splitLines` gives holds all of a text that is not blank. -/
theorem filter_concat_splitLines (s : String) :
    (concat (splitLines s)).toList.filter (!Chars.isBlank ·) = s.toList.filter (!Chars.isBlank ·) := by
  have overlooks : Chars.OverlooksBlanks (!Chars.isBlank ·) := fun c blank ↦ by simp [blank]
  rw [toList_concat_splitLines, overlooks.filter_flatten_splitLines]

/-- A text that is `Chars.Rebroken` has the same lines. -/
theorem splitLines_eq_of_rebroken {s t : String} (rebroken : Chars.Rebroken s.toList t.toList) :
    splitLines t = splitLines s :=
  congrArg (List.map String.ofList) (rebroken.splitLines_append [])

/-- What `splitLines` gives of a text are lines (`Chars.IsLine`), they hold what is no white space in it, and
`joinWith` and `splitLines` bring them back as they were. How the line feeds of the text are written
(`Chars.Rebroken`) does not show in them. -/
theorem splitLines_isLine_roundtrip_rebroken (s : String) :
    (∀ line ∈ splitLines s, Chars.IsLine line.toList) ∧
    (concat (splitLines s)).toList.filter (!Chars.isBlank ·) = s.toList.filter (!Chars.isBlank ·) ∧
    splitLines (joinWith "\n" (splitLines s)) = splitLines s ∧
    ∀ t : String, Chars.Rebroken s.toList t.toList → splitLines t = splitLines s :=
  ⟨fun _ ↦ isLine_of_mem_splitLines, filter_concat_splitLines s,
    splitLines_joinWith fun _ ↦ isLine_of_mem_splitLines, fun _ ↦ splitLines_eq_of_rebroken⟩

/-- Two line feeds are written in other ways, one of them behind a carriage return, the other one in front of a
non-breaking space; `splitLines` gives the same. The carriage return in the last line stays. -/
theorem splitLines_mixedBreaks :
    Chars.Rebroken "甲\r\n 乙\n\u00a0丙\r丁\n".toList "甲\r\r\n 乙\u00a0\u00a0丙\r丁\n".toList ∧
      splitLines "甲\r\r\n 乙\u00a0\u00a0丙\r丁\n" = ["甲", "乙", "丙\r丁"] := by
  have tail : Chars.Rebroken "\u00a0丙\r丁\n".toList "\u00a0丙\r丁\n".toList :=
    .keep _ (.keep _ (.keep _ (.keep _ (.keep _ .nil))))
  have rebroken : Chars.Rebroken "甲\r\n 乙\n\u00a0丙\r丁\n".toList "甲\r\r\n 乙\u00a0\u00a0丙\r丁\n".toList :=
    .keep _ (.keep _ (.pair (.keep _ (.keep _ (.space tail)))))
  have plain : splitLines "甲\r\n 乙\n\u00a0丙\r丁\n" = ["甲", "乙", "丙\r丁"] := by decide +kernel
  exact ⟨rebroken, ((splitLines_isLine_roundtrip_rebroken _).2.2.2 _ rebroken).trans plain⟩

end Text

end Gazette
