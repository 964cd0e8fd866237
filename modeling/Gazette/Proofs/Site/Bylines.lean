import Gazette.Proofs.Chars.Edges
import Gazette.Proofs.Text.Keywords
import Gazette.Site.Byline

/-!
# Names in bylines

A byline is cut at its marks and the pieces are trimmed: `Byline.pieces`. Most readers of bylines leave the
blank pieces out, so their names are `Text.Neat`: `Byline.names`, `Byline.credited?` and `Byline.bracketed`. Two
keep them, `Byline.reportersOrDesk` and `Byline.deskOrWriter`, and the latter also takes the name of a writer as
it stands (`Byline.LooseWriter`). `Text.keywords` cleans keywords before their escapes are resolved, and an
escape may stand for white space.
-/

namespace Gazette

namespace Text

theorem splitOn_ne_nil (mark s : String) : splitOn mark s ≠ [] :=
  mt List.map_eq_nil_iff.1 (Chars.splitOn_ne_nil mark.toList s.toList)

/-- What `keywords` gives is the `keyword` of a piece that is not blank. -/
theorem mem_keywords {name s : String} :
    name ∈ keywords s ↔ ∃ piece ∈ splitOn "," s, trim piece ≠ "" ∧ keyword (trim piece) = name := by
  simp only [keywords, List.mem_map, List.mem_filter, Bool.not_eq_true', ← Bool.not_eq_true,
    String.isEmpty_iff]
  constructor
  · rintro ⟨_, ⟨⟨piece, mem, rfl⟩, full⟩, same⟩
    exact ⟨piece, mem, full, same⟩
  · rintro ⟨piece, mem, full, same⟩
    exact ⟨_, ⟨⟨piece, mem, rfl⟩, full⟩, same⟩

/-- All of `keywords` are `Neat` unless an escape in one of them stands for something that is not. -/
theorem neat_keywords_iff (s : String) :
    (∀ name ∈ keywords s, Neat name) ↔
      ¬ ∃ piece ∈ splitOn "," s, contains "\\u" (trim piece) ∧ trim piece ≠ "" ∧
        ¬ Neat (unescape (trim piece)) := by
  constructor
  · rintro neat ⟨piece, mem, escaped, full, bad⟩
    refine bad ?_
    have same : keyword (trim piece) = unescape (trim piece) := if_pos escaped
    rw [← same]
    exact neat _ (mem_keywords.2 ⟨piece, mem, full, rfl⟩)
  · intro none name mem
    obtain ⟨piece, cut, full, rfl⟩ := mem_keywords.1 mem
    by_cases escaped : contains "\\u" (trim piece)
    · rw [keyword, if_pos escaped]
      exact Decidable.byContradiction fun bad ↦ none ⟨piece, cut, escaped, full, bad⟩
    · rw [keyword, if_neg escaped]
      exact ⟨full, trimmed_trim piece⟩

/-- An escape that stands for a space. -/
example : keywords "甲, \\u0020" = ["甲", " "] := by decide +kernel

end Text

namespace Byline

open Chars

/-! ## Careful readers -/

/-- `pieces` are `Trimmed`. -/
theorem trimmed_of_mem_pieces {mark s name : String} (h : name ∈ pieces mark s) :
    Trimmed name.toList := by
  obtain ⟨piece, -, rfl⟩ := List.mem_map.1 h
  exact Text.trimmed_trim piece

/-- `names` are `Text.Neat`. -/
theorem neat_of_mem_names {mark s name : String} (h : name ∈ names mark s) : Text.Neat name :=
  Text.neat_of_mem_filter Text.trimmed_trim h

/-- `withoutRole` is `Trimmed`. -/
theorem trimmed_withoutRole (s : String) : Trimmed (withoutRole s).toList := by
  unfold withoutRole
  split
  · exact Text.trimmed_trim _
  · exact Text.trimmed_trim s

/-- The names that `credited?` gives are `Text.Neat`. -/
theorem neat_of_credited? {s name : String} {names : List String} (h : credited? s = some names)
    (mem : name ∈ names) : Text.Neat name := by
  obtain ⟨credit, -, rfl⟩ := Option.map_eq_some_iff.1 h
  exact Text.neat_of_mem_filter trimmed_withoutRole mem

/-- The names that `bracketed` gives are `Text.Neat`. -/
theorem neat_of_mem_bracketed {s name : String} (h : name ∈ bracketed s) : Text.Neat name := by
  unfold bracketed at h
  split at h
  next rest opened =>
    split at h
    next text found =>
      split at h
      · exact absurd h List.not_mem_nil
      · exact neat_of_mem_names h
    next => exact absurd h List.not_mem_nil
  next => exact absurd h List.not_mem_nil

/-! ## Readers that keep blank names -/

/-- The names that `reportersOrDesk` gives are `Trimmed`. -/
theorem trimmed_of_mem_reportersOrDesk {s name : String} (h : name ∈ reportersOrDesk s) :
    Trimmed name.toList := by
  unfold reportersOrDesk at h
  split at h
  next text found =>
    obtain ⟨piece, -, rfl⟩ := List.mem_map.1 h
    exact Text.trimmed_trim _
  next =>
    dsimp only at h
    split at h
    · exact trimmed_of_mem_pieces (List.mem_of_mem_drop h)
    · exact trimmed_of_mem_pieces h

/-- `reportersOrDesk` always gives names. -/
theorem reportersOrDesk_ne_nil (s : String) : reportersOrDesk s ≠ [] := by
  unfold reportersOrDesk
  split
  · exact mt List.map_eq_nil_iff.1 (Text.splitOn_ne_nil _ _)
  · dsimp only
    split
    next several => exact List.drop_eq_nil_iff.not.2 (Nat.not_le.2 several)
    next => exact mt List.map_eq_nil_iff.1 (Text.splitOn_ne_nil _ _)

/-- The names that `reportersOrDesk` gives are `Text.Neat` unless one is empty. -/
theorem neat_reportersOrDesk_iff (s : String) :
    (∀ name ∈ reportersOrDesk s, Text.Neat name) ↔ "" ∉ reportersOrDesk s := by
  constructor
  · intro neat empty
    exact (neat "" empty).nonempty rfl
  · intro full name mem
    exact ⟨fun empty ↦ full (empty ▸ mem), trimmed_of_mem_reportersOrDesk mem⟩

/-- A place without reporters. -/
example : reportersOrDesk "／台北報導" = [""] := by decide +kernel

/-- A byline of SET News names a writer, who is taken as he stands, with white space around the name. -/
def LooseWriter (s : String) : Prop :=
  firstSome? deskNames? s.toList = none ∧
    ∃ name, firstSome? writer? s.toList = some name ∧ ¬ Trimmed name

/-- `deskOrWriter` always gives names. -/
theorem deskOrWriter_ne_nil (s : String) : deskOrWriter s ≠ [] := by
  unfold deskOrWriter
  split
  · exact mt List.map_eq_nil_iff.1 (Text.splitOn_ne_nil _ _)
  · split
    · exact List.cons_ne_nil _ _
    · exact mt List.map_eq_nil_iff.1 (Text.splitOn_ne_nil _ _)

/-- A name of `deskOrWriter` that is not `Trimmed` is that of a `LooseWriter`. -/
theorem looseWriter_of_mem_deskOrWriter {s name : String} (h : name ∈ deskOrWriter s)
    (loose : ¬ Trimmed name.toList) : LooseWriter s := by
  unfold deskOrWriter at h
  split at h
  · exact absurd (trimmed_of_mem_pieces h) loose
  next noDesk =>
    split at h
    next writer found =>
      obtain rfl := List.mem_singleton.1 h
      rw [String.toList_ofList] at loose
      exact ⟨noDesk, writer, found, loose⟩
    next =>
      obtain ⟨piece, -, rfl⟩ := List.mem_map.1 h
      exact absurd (Text.trimmed_trim _) loose

/-- The names that `deskOrWriter` gives are `Text.Neat` unless one is empty or the byline names a
`LooseWriter`. -/
theorem neat_deskOrWriter_iff (s : String) :
    (∀ name ∈ deskOrWriter s, Text.Neat name) ↔ ¬ ("" ∈ deskOrWriter s ∨ LooseWriter s) := by
  constructor
  · rintro neat (empty | ⟨noDesk, writer, found, loose⟩)
    · exact (neat "" empty).nonempty rfl
    · have alone : deskOrWriter s = [String.ofList writer] := by
        simp only [deskOrWriter, noDesk, found]
      have trimmed := (neat (String.ofList writer) (alone ▸ List.mem_singleton_self _)).trimmed
      rw [String.toList_ofList] at trimmed
      exact loose trimmed
  · intro careful name mem
    obtain ⟨full, tight⟩ := not_or.1 careful
    refine ⟨fun empty ↦ full (empty ▸ mem), ?_⟩
    exact Decidable.byContradiction fun loose ↦ tight (looseWriter_of_mem_deskOrWriter mem loose)

/-- A writer with spaces around the name. -/
example : deskOrWriter "文／ 甲 " = [" 甲 "] := by decide +kernel

end Byline

end Gazette
