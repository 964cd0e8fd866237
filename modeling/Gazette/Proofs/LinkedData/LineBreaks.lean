import Gazette.Proofs.Json.Denotation
import Gazette.Site.Online

/-!
# Line breaks in linked data

ETtoday takes all line breaks out of its linked data by `Text.stripHidden` before it decodes them. Between the
tokens of a JSON text they are white space, and white space is needed nowhere; in a token there are none, but
for the three of `wideBreaks`, which a string may hold. So a text without wide line breaks (`IsPlain`) says the
same without any (`parseChars_stripHidden`), and line breaks that were put in, at whatever places
(`Chars.Strewn`), do no harm.
-/

namespace Gazette.Chars

/-! ## Line breaks in a run -/

theorem stripHidden_cons_of_endsLine {c : Char} (ends : endsLine c) (cs : List Char) :
    stripHidden (c :: cs) = stripHidden cs := List.filter_cons_of_neg (by simp [ends])

theorem stripHidden_cons {c : Char} (kept : ¬ endsLine c) (cs : List Char) :
    stripHidden (c :: cs) = c :: stripHidden cs := List.filter_cons_of_pos (by simp [kept])

theorem stripHidden_append (cs ds : List Char) : stripHidden (cs ++ ds) = stripHidden cs ++ stripHidden ds :=
  List.filter_append ..

/-- A run with line breaks taken out from left to right, a carriage return and the line feed behind it at once. -/
def dropBreaks : List Char → List Char
  | [] => []
  | '\r' :: '\n' :: cs => dropBreaks cs
  | c :: cs => if endsLine c then dropBreaks cs else c :: dropBreaks cs

/-- `dropBreaks` is `stripHidden`: a carriage return and a line feed may be taken out together or one after the
other. -/
theorem dropBreaks_eq_stripHidden (cs : List Char) : dropBreaks cs = stripHidden cs := by
  induction cs using dropBreaks.induct with
  | case1 => rfl
  | case2 cs ih => exact ih
  | case3 c cs notPair ends ih =>
    rw [dropBreaks.eq_3 _ _ notPair, if_pos ends, ih, stripHidden_cons_of_endsLine ends]
  | case4 c cs notPair kept ih => rw [dropBreaks.eq_3 _ _ notPair, if_neg kept, ih, stripHidden_cons kept]

/-- `Strewn cs ds`: the run `ds` is `cs` with line breaks put in, any number of them at any places. -/
inductive Strewn : List Char → List Char → Prop
  /-- Nothing, with nothing put in. -/
  | nil : Strewn [] []
  /-- A character of the run. -/
  | keep {c : Char} {cs ds : List Char} (more : Strewn cs ds) : Strewn (c :: cs) (c :: ds)
  /-- A line break that is put in. -/
  | put {c : Char} {cs ds : List Char} (ends : endsLine c) (more : Strewn cs ds) : Strewn cs (c :: ds)

/-- `stripHidden` does not tell which line breaks were put in. -/
theorem Strewn.stripHidden_eq {cs ds : List Char} (h : Strewn cs ds) : stripHidden ds = stripHidden cs := by
  induction h with
  | nil => rfl
  | @keep c cs ds _ ih =>
    by_cases ends : endsLine c
    · rw [stripHidden_cons_of_endsLine ends, stripHidden_cons_of_endsLine ends, ih]
    · rw [stripHidden_cons ends, stripHidden_cons ends, ih]
  | put ends _ ih => rw [stripHidden_cons_of_endsLine ends, ih]

/-- Each run is `Strewn` from what `stripHidden` leaves of it. -/
theorem strewn_stripHidden (cs : List Char) : Strewn (stripHidden cs) cs := by
  induction cs with
  | nil => exact .nil
  | cons c cs ih =>
    by_cases ends : endsLine c
    · rw [stripHidden_cons_of_endsLine ends]
      exact .put ends ih
    · rw [stripHidden_cons ends]
      exact .keep ih

end Gazette.Chars

namespace Gazette.Json

open Chars (stripHidden_append stripHidden_cons)

/-! ## Line breaks in JSON texts -/

/-- The line breaks that a string of a JSON text may hold: the next line, and the line and paragraph
separators. -/
def wideBreaks : List Char := ['\u0085', '\u2028', '\u2029']

/-- A run without `wideBreaks`. -/
def IsPlain (cs : List Char) : Prop := ∀ c ∈ cs, c ∉ wideBreaks

/-- No line break but `wideBreaks` is `IsVisible`. -/
theorem not_endsLine_of_isVisible {c : Char} (visible : IsVisible c) (plain : c ∉ wideBreaks) : ¬ Chars.endsLine c := by
  have wide {d : Char} (mem : d ∈ wideBreaks) : c.toNat ≠ d.toNat := fun same ↦ plain (Char.toNat_inj.1 same ▸ mem)
  intro ends
  simp only [Chars.endsLine, Bool.or_eq_true, Bool.and_eq_true, decide_eq_true_eq, beq_iff_eq] at ends
  rcases ends with ((⟨-, low⟩ | next) | line) | paragraph
  · exact absurd visible (Nat.not_le.2 (Nat.lt_of_le_of_lt low (by decide)))
  · exact wide (d := '\u0085') (by decide) next
  · exact wide (d := '\u2028') (by decide) line
  · exact wide (d := '\u2029') (by decide) paragraph

/-- `stripHidden` keeps a token without `wideBreaks` as it is. -/
theorem stripHidden_of_visible {token : List Char} (visible : ∀ c ∈ token, IsVisible c) (plain : IsPlain token) :
    Chars.stripHidden token = token :=
  List.filter_eq_self.2 fun c mem ↦ by simp [not_endsLine_of_isVisible (visible c mem) (plain c mem)]

theorem IsGap.stripHidden {gap : List Char} (space : IsGap gap) : IsGap (Chars.stripHidden gap) :=
  fun c mem ↦ space c (List.mem_of_mem_filter mem)

theorem stripHidden_comma (first : Bool) : Chars.stripHidden (comma first) = comma first := by
  cases first <;> rfl

section Rows

variable {α : Type} {denotes : α → List Char → Prop}

/-- A `Row` denotes the same without line breaks if its parts do. -/
theorem Row.stripHidden (parts : ∀ x cs, denotes x cs → IsPlain cs → denotes x (Chars.stripHidden cs)) {first : Bool}
    {xs : List α} {row : List Char} (h : Row denotes first xs row) (plain : IsPlain row) :
    Row denotes first xs (Chars.stripHidden row) := by
  induction h with
  | nil space => exact .nil space.stripHidden
  | cons space space' item others ih =>
    obtain ⟨here, later⟩ := List.forall_mem_append.1 plain
    rw [stripHidden_append, stripHidden_append, stripHidden_append, stripHidden_append, stripHidden_comma]
    exact .cons space.stripHidden space'.stripHidden (parts _ _ item (List.forall_mem_append.1 here).2) (ih later)

end Rows

variable {denotes : Json → List Char → Prop}

/-- A `Member` denotes the same without line breaks if its value does. -/
theorem Member.stripHidden (parts : ∀ v cs, denotes v cs → IsPlain cs → denotes v (Chars.stripHidden cs))
    (m : String × Json) (cs : List Char) (h : Member denotes m cs) (plain : IsPlain cs) :
    Member denotes m (Chars.stripHidden cs) := by
  cases h with
  | @mk body token gap gap' cs v key space space' value =>
    obtain ⟨here, later⟩ := List.forall_mem_append.1 plain
    obtain ⟨string, -⟩ := List.forall_mem_append.1 here
    have token_kept := stripHidden_of_visible key.visible (List.forall_mem_cons.1 string).2
    have value_plain := (List.forall_mem_append.1 (List.forall_mem_cons.1 later).2).2
    rw [stripHidden_append, stripHidden_append, stripHidden_cons (by decide), stripHidden_cons (by decide),
      stripHidden_append, token_kept]
    exact .mk key space.stripHidden space'.stripHidden (parts v cs value value_plain)

/-- A token keeps its text without line breaks. -/
theorem IsScalar.stripHidden {v : Json} {c : Char} {token : List Char} (h : IsScalar v c token)
    (plain : IsPlain (c :: token)) : Chars.stripHidden (c :: token) = c :: token :=
  stripHidden_of_visible h.visible plain

/-- What `Composes` parts denotes the same without line breaks if the parts do. -/
theorem Composes.stripHidden (parts : ∀ v cs, denotes v cs → IsPlain cs → denotes v (Chars.stripHidden cs)) {v : Json}
    {cs : List Char} (h : Composes denotes v cs) (plain : IsPlain cs) : Composes denotes v (Chars.stripHidden cs) := by
  cases h with
  | scalar scalar =>
    rw [scalar.stripHidden plain]
    exact .scalar scalar
  | array row =>
    have inner := (List.forall_mem_cons.1 (List.forall_mem_append.1 plain).1).2
    have close : Chars.stripHidden [']'] = [']'] := rfl
    rw [stripHidden_append, stripHidden_cons (by decide), close]
    exact .array (row.stripHidden parts inner)
  | object row =>
    have inner := (List.forall_mem_cons.1 (List.forall_mem_append.1 plain).1).2
    have close : Chars.stripHidden ['\x7d'] = ['\x7d'] := rfl
    rw [stripHidden_append, stripHidden_cons (by decide), close]
    exact .object (row.stripHidden (Member.stripHidden parts) inner)

/-- A text without `wideBreaks` `Denotes` the same after `stripHidden`. -/
theorem Denotes.stripHidden {depth : Nat} : ∀ v cs, Denotes depth v cs → IsPlain cs →
    Denotes depth v (Chars.stripHidden cs) := by
  induction depth with
  | zero =>
    rintro v _ ⟨c, token, rfl, scalar⟩ plain
    exact ⟨c, token, scalar.stripHidden plain, scalar⟩
  | succ depth ih => exact fun v cs h ↦ Composes.stripHidden ih h

/-- `parseChars` reads a text without `wideBreaks` as the same value after `stripHidden`. -/
theorem parseChars_stripHidden {cs : List Char} {v : Json} (plain : IsPlain cs) (read : parseChars cs = .ok v) :
    parseChars (Chars.stripHidden cs) = .ok v := by
  obtain ⟨before, token, behind, rfl, space, space', denoted⟩ := parseChars_eq_ok_iff.1 read
  have token_plain := (List.forall_mem_append.1 (List.forall_mem_append.1 plain).1).2
  refine parseChars_eq_ok_iff.2 ⟨_, _, _, ?_, space.stripHidden, space'.stripHidden,
    Denotes.stripHidden v token denoted token_plain⟩
  rw [stripHidden_append, stripHidden_append]

end Gazette.Json

namespace Gazette

/-- What a failure tells: all of it, with its cause in words. -/
def Failure.told (f : Failure) : FailureKind × String × String × Option Nat × Option String :=
  (f.kind, f.subject, f.activity, f.status, f.cause.map Cause.message)

namespace LinkedData

/-! ## Decoding without line breaks -/

/-- `decode` of blocks that are read as one value gives the same linked data, or fails in the same way. -/
theorem decode_congr {block other : String} {v : Json} (read : Json.parse block = .ok v)
    (read' : Json.parse other = .ok v) (pageUrl : String) :
    (decode block pageUrl).mapError Failure.told = (decode other pageUrl).mapError Failure.told := by
  unfold Json.parse at read read'
  simp only [decode, parse, read, read', bind, Except.bind]
  -- A value of the wrong form has no place in the text, so its fault is told in the same words.
  cases ofJson v with
  | ok data => rfl
  | error cause => rfl

/-- A block without `wideBreaks` decodes, as `ettoday` mends it, as if it were left as it is, and so does each
text that is `Strewn` from it, with line breaks in strings, numbers and escapes too. -/
theorem decode_mend_ettoday {block : String} {v : Json} (plain : Json.IsPlain block.toList)
    (read : Json.parse block = .ok v) :
    Json.parse (Site.ettoday.mend block) = .ok v ∧
    (∀ pageUrl, (decode (Site.ettoday.mend block) pageUrl).mapError Failure.told =
      (decode block pageUrl).mapError Failure.told) ∧
    ∀ text, Chars.Strewn block.toList text.toList →
      Json.parse (Site.ettoday.mend text) = .ok v ∧
      ∀ pageUrl, (decode (Site.ettoday.mend text) pageUrl).mapError Failure.told =
        (decode block pageUrl).mapError Failure.told := by
  have stripped {text : String} (same : Chars.stripHidden text.toList = Chars.stripHidden block.toList) :
      Json.parse (Site.ettoday.mend text) = .ok v := by
    unfold Json.parse
    rw [show Site.ettoday.mend text = Text.via Chars.stripHidden text from rfl, Text.toList_via, same]
    exact Json.parseChars_stripHidden plain read
  have mended := stripped (rfl : Chars.stripHidden block.toList = _)
  exact ⟨mended, decode_congr mended read, fun text strewn ↦
    ⟨stripped strewn.stripHidden_eq, decode_congr (stripped strewn.stripHidden_eq) read⟩⟩

/-- A block with a headline. -/
def headlineBlock : String := "\x7b\"headline\": \"a\\u0041\"\x7d"

/-- The block `headlineBlock` with line breaks put in: one in its key, and three in its text, one of them in an
escape. -/
def brokenBlock : String := "\x7b\"head\u2028line\":\n \"a\r\n\\u0\u0085041\"\x7d"

/-- `ettoday` decodes `brokenBlock` like `headlineBlock`. -/
theorem decode_mend_ettoday_brokenBlock :
    Json.IsPlain headlineBlock.toList ∧ Json.parse headlineBlock = .ok (.object [("headline", .string "aA")]) ∧
    Chars.Strewn headlineBlock.toList brokenBlock.toList ∧
    Json.parse (Site.ettoday.mend brokenBlock) = .ok (.object [("headline", .string "aA")]) := by
  have plain : Json.IsPlain headlineBlock.toList := by simp [Json.IsPlain, headlineBlock, Json.wideBreaks]
  have read : Json.parse headlineBlock = .ok (.object [("headline", .string "aA")]) := by decide +kernel
  have kept : Chars.stripHidden brokenBlock.toList = headlineBlock.toList := by decide
  have strewn := kept ▸ Chars.strewn_stripHidden brokenBlock.toList
  exact ⟨plain, read, strewn, ((decode_mend_ettoday plain read).2.2 _ strewn).1⟩

end LinkedData

end Gazette
