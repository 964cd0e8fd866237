import Gazette.Article.Fingerprint
import Gazette.Proofs.Chars.Visible
import Mathlib.Data.List.Forall2
import Mathlib.Logic.Relation

/-!
# Layout does not show in a fingerprint

Two readings of one page may differ in how the text was cleaned and in where its paragraphs end. `Relaid` is one
such difference, and no number of them shows in `Article.contentHash` (`contentHash_eq_of_relaid`): it is taken
of `Text.fingerprint`, the letters and numbers, of the title and of all paragraphs in a row, and those are the
same.
-/

namespace Gazette

/-- `Text.fingerprint` of paragraphs put together is that of the first one in front of that of the others. -/
theorem Text.fingerprint_concat_cons (s : String) (rest : List String) :
    fingerprint (concat (s :: rest)) = fingerprint s ++ fingerprint (concat rest) := by
  simp [fingerprint, via, concat]

/-- `Text.fingerprint` of two rows of paragraphs put together is that of one in front of that of the other. -/
theorem Text.fingerprint_concat_append (l r : List String) :
    fingerprint (concat (l ++ r)) = fingerprint (concat l) ++ fingerprint (concat r) := by
  simp [fingerprint, via, concat]

namespace Article

open Text

/-- `Relaid a b`: the record `b` is `a` after one change of its layout. -/
inductive Relaid : Article → Article → Prop
  /-- The title is cleaned. -/
  | title {clean : String → String} (way : clean ∈ cleaners) (a : Article) :
    Relaid a { a with title := clean a.title }
  /-- Some of the paragraphs are cleaned, the others stay as they are. -/
  | paragraphs {clean : String → String} (way : clean ∈ cleaners) {a : Article} {content : List String}
    (some : List.Forall₂ (fun old new ↦ new = old ∨ new = clean old) a.content content) :
    Relaid a { a with content }
  /-- The lines of a paragraph become paragraphs. -/
  | lines {a : Article} {before after : List String} {paragraph : String}
    (stands : a.content = before ++ paragraph :: after) :
    Relaid a { a with content := before ++ splitLines paragraph ++ after }
  /-- Two paragraphs that follow each other are joined. -/
  | join {a : Article} {before after : List String} {first second : String}
    (stand : a.content = before ++ first :: second :: after) :
    Relaid a { a with content := before ++ (first ++ second) :: after }
  /-- A paragraph is cut in two behind some number of its characters. -/
  | cut {a : Article} {before after : List String} {paragraph : String}
    (stands : a.content = before ++ paragraph :: after) (n : Nat) :
    Relaid a { a with
      content := before ++ String.ofList (paragraph.toList.take n) ::
        String.ofList (paragraph.toList.drop n) :: after }

/-- Records with the same `Text.fingerprint` of title and content, and otherwise the same, have the same
`hashKey`. -/
theorem hashKey_congr {a : Article} {title : String} {content : List String}
    (titles : fingerprint title = fingerprint a.title)
    (contents : fingerprint (concat content) = fingerprint (concat a.content)) :
    { a with title, content }.hashKey = a.hashKey := by
  simp only [hashKey, titles, contents]
  rfl

/-- Paragraphs some of which went through one of the `cleaners` have the `Text.fingerprint` that they had. -/
theorem fingerprint_of_forall₂ {clean : String → String} (way : clean ∈ cleaners) {old new : List String}
    (some : List.Forall₂ (fun old new ↦ new = old ∨ new = clean old) old new) :
    fingerprint (concat new) = fingerprint (concat old) := by
  induction some with
  | nil => rfl
  | cons each _ ih =>
    rw [fingerprint_concat_cons, fingerprint_concat_cons, ih]
    rcases each with rfl | rfl
    · rfl
    · rw [fingerprint_clean way]

/-- Two paragraphs that follow each other have the `Text.fingerprint` of what they are together. -/
theorem fingerprint_join (before after : List String) (first second : String) :
    fingerprint (concat (before ++ (first ++ second) :: after)) =
      fingerprint (concat (before ++ first :: second :: after)) := by
  rw [fingerprint_concat_append, fingerprint_concat_append, fingerprint_concat_cons, fingerprint_concat_cons,
    fingerprint_concat_cons, fingerprint_append, String.append_assoc]

/-- A `Relaid` step keeps `hashKey`. -/
theorem Relaid.hashKey_eq {a b : Article} (h : Relaid a b) : b.hashKey = a.hashKey := by
  cases h with
  | title way => exact hashKey_congr (fingerprint_clean way _) rfl
  | paragraphs way some => exact hashKey_congr rfl (fingerprint_of_forall₂ way some)
  | lines stands =>
    refine hashKey_congr rfl ?_
    rw [stands, List.append_assoc, fingerprint_concat_append, fingerprint_concat_append, fingerprint_concat_append,
      fingerprint_concat_cons, fingerprint_concat_splitLines]
  | @join _ before after first second stand =>
    refine hashKey_congr rfl ?_
    rw [stand]
    exact fingerprint_join before after first second
  | @cut _ before after paragraph stands n =>
    refine hashKey_congr rfl ?_
    have whole : String.ofList (paragraph.toList.take n) ++ String.ofList (paragraph.toList.drop n) = paragraph := by
      rw [← String.ofList_append, List.take_append_drop, String.ofList_toList]
    rw [stands, ← fingerprint_join, whole]

/-- Records that come of each other by `Relaid` steps, made or taken back, have the same `contentHash`. -/
theorem contentHash_eq_of_relaid {a b : Article} (h : Relation.EqvGen Relaid a b) : b.contentHash = a.contentHash := by
  have key : b.hashKey = a.hashKey := by
    induction h with
    | rel a b step => exact step.hashKey_eq
    | refl a => rfl
    | symm a b _ ih => exact ih.symm
    | trans a b c _ _ first second => exact second.trans first
  rw [contentHash, key, contentHash]

/-! ## A record laid out in two ways -/

/-- A record as it stands on a page. -/
def rough : Article where
  title := "甲 \r\n 乙"
  content := ["丙\u2028 丁\u00a0\n", "戊", "己"]

/-- The record `rough` with a clean title, a paragraph for each line, and its last paragraphs in one. -/
def smooth : Article where
  title := "甲 乙"
  content := ["丙\u2028 丁", "戊己"]

/-- `rough` and `smooth` have one `contentHash`. -/
theorem contentHash_eq_of_relaid_rough :
    Relation.EqvGen Relaid rough smooth ∧ rough ≠ smooth ∧ smooth.contentHash = rough.contentHash := by
  have title : Relaid rough { rough with title := "甲 乙" } := by
    have clean : cleanParagraphSpaced rough.title = "甲 乙" := by decide +kernel
    exact clean ▸ .title (by simp [cleaners]) rough
  have lines : Relaid { rough with title := "甲 乙" }
      { rough with title := "甲 乙", content := ["丙\u2028 丁", "戊", "己"] } := by
    have split : splitLines "丙\u2028 丁\u00a0\n" = ["丙\u2028 丁"] := by decide
    have stands : { rough with title := "甲 乙" }.content = [] ++ "丙\u2028 丁\u00a0\n" :: ["戊", "己"] := rfl
    have step := Relaid.lines stands
    rwa [split] at step
  have join : Relaid { rough with title := "甲 乙", content := ["丙\u2028 丁", "戊", "己"] } smooth := by
    have joined : "戊" ++ "己" = "戊己" := by decide
    have stand : { rough with title := "甲 乙", content := ["丙\u2028 丁", "戊", "己"] }.content =
        ["丙\u2028 丁"] ++ "戊" :: "己" :: [] := rfl
    have step := Relaid.join stand
    rwa [joined] at step
  have relaid : Relation.EqvGen Relaid rough smooth :=
    .trans _ _ _ (.rel _ _ title) (.trans _ _ _ (.rel _ _ lines) (.rel _ _ join))
  exact ⟨relaid, by decide, contentHash_eq_of_relaid relaid⟩

end Article

end Gazette
