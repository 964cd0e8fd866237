import Gazette.Json.Printer
import Gazette.Json.Record
import Gazette.Proofs.Json.Grammar

/-!
# Reading strings back

`Json.escaped` writes quotes, backslashes and control characters as escapes, and `Json.escape` takes just these
escapes back, so that `Json.stringRest` reads a string as it was, whatever characters it has and whatever stands
behind it. `ReadsAs read cs x` says so of any reader.
-/

namespace Gazette.Json

/-! ## White space -/

/-- `skipSpace` skips white space in front. -/
theorem skipSpace_append {gap : List Char} (space : IsGap gap) (rest : List Char) :
    skipSpace (gap ++ rest) = skipSpace rest := List.dropWhile_append_of_pos space

/-- `skipSpace` skips white space up to something visible, and no more. -/
theorem skipSpace_append_cons {gap : List Char} (space : IsGap gap) {c : Char} (visible : ¬ isSpace c)
    (rest : List Char) : skipSpace (gap ++ c :: rest) = c :: rest := by
  rw [skipSpace_append space]
  exact List.dropWhile_cons_of_neg visible

/-- `ReadsAs read cs x`: the reader takes the text `cs` for `x`, whatever white space stands in front of it and
whatever follows. -/
def ReadsAs {α : Type} (read : Reads α) (cs : List Char) (x : α) : Prop :=
  ∀ gap rest, IsGap gap → read (gap ++ cs ++ rest) = .ok (x, rest)

/-- `whole read` of a text with white space around it is what the text is read as. -/
theorem ReadsAs.whole {α : Type} {read : Reads α} {cs : List Char} {x : α} (h : ReadsAs read cs x)
    {before behind : List Char} (space : IsGap before) (space' : IsGap behind) :
    whole read (before ++ cs ++ behind) = .ok x := by
  have nothing : skipSpace behind = [] := by
    rw [← List.append_nil behind, skipSpace_append space']
    rfl
  unfold Json.whole
  rw [h before behind space]
  simp only [bind, Except.bind, nothing, pure, Except.pure]

/-! ## Characters -/

/-- `Number.digitValue?` takes back what `hexDigit` writes. -/
theorem digitValue?_hexDigit : ∀ n < 16, Number.digitValue? (hexDigit n) = some n := by decide

/-- `hexUnit` reads two digits behind two zeros as a number below 256. -/
theorem hexUnit_hexDigit {high low : Nat} (h : high < 16) (l : low < 16) (rest : List Char) :
    hexUnit ('0' :: '0' :: hexDigit high :: hexDigit low :: rest) = .ok (high * 16 + low, rest) := by
  have zero : Number.digitValue? '0' = some 0 := by decide
  simp [hexUnit, List.mapM_cons, zero, digitValue?_hexDigit _ h, digitValue?_hexDigit _ l]

/-- `escape` takes back the escape of a control character. -/
theorem escape_control {c : Char} (control : c.toNat < 0x20) (rest : List Char) :
    escape ('u' :: '0' :: '0' :: hexDigit (c.toNat / 16) :: hexDigit (c.toNat % 16) :: rest) =
      .ok (c, rest) := by
  have unit : c.toNat / 16 * 16 + c.toNat % 16 = c.toNat := by omega
  have low : ¬ (0xDC00 ≤ c.toNat ∧ c.toNat ≤ 0xDFFF) := by omega
  have high : ¬ (0xD800 ≤ c.toNat ∧ c.toNat ≤ 0xDBFF) := by omega
  simp only [escape, hexUnit_hexDigit (show c.toNat / 16 < 16 by omega) (show c.toNat % 16 < 16 by omega),
    bind, Except.bind, unit, low, high, if_false, pure, Except.pure, Char.ofNat_toNat]

/-- `stringBody` takes back what `escaped` writes of one character. -/
theorem stringBody_escaped_append (c : Char) (fuel : Nat) (cs : List Char) :
    stringBody (fuel + 1) (escaped c ++ cs) = do
      let (body, rest) ← stringBody fuel cs
      return (c :: body, rest) := by
  unfold escaped
  -- The escapes of one letter are read back by computation; the others need the value of digits or the bound.
  split
  next quote => rw [quote]; rfl
  split
  next backslash => rw [backslash]; rfl
  split
  next backspace => rw [backspace]; rfl
  split
  next feed => rw [feed]; rfl
  split
  next line => rw [line]; rfl
  split
  next carriage => rw [carriage]; rfl
  split
  next tab => rw [tab]; rfl
  split
  next control =>
    simp only [List.cons_append, List.nil_append, stringBody, escape_control control, bind, Except.bind]
  next notQuote notBackslash _ _ _ _ _ visible =>
    rw [List.singleton_append, stringBody, if_neg visible]
    · exact notQuote
    · exact notBackslash

theorem escaped_ne_nil (c : Char) : escaped c ≠ [] := by
  unfold escaped
  repeat' split
  all_goals exact List.cons_ne_nil _ _

/-! ## Strings -/

/-- `stringBody` takes back what `escaped` writes of a run, up to the quote behind it. -/
theorem stringBody_flatMap_escaped (body rest : List Char) {fuel : Nat} (enough : body.length < fuel) :
    stringBody fuel (body.flatMap escaped ++ '"' :: rest) = .ok (body, rest) := by
  induction body generalizing fuel with
  | nil =>
    cases fuel with
    | zero => cases enough
    | succ fuel => rfl
  | cons c body ih =>
    cases fuel with
    | zero => cases enough
    | succ fuel =>
      rw [List.flatMap_cons, List.append_assoc, stringBody_escaped_append,
        ih (Nat.lt_of_succ_lt_succ enough)]
      rfl

theorem length_le_length_flatMap_escaped (body : List Char) :
    body.length ≤ (body.flatMap escaped).length := by
  induction body with
  | nil => exact Nat.le_refl 0
  | cons c body ih =>
    have some := List.length_pos_iff.2 (escaped_ne_nil c)
    rw [List.flatMap_cons, List.length_append, List.length_cons]
    omega

/-- `stringRest` reads a string back behind its quote. -/
theorem stringRest_flatMap_escaped (s : String) (rest : List Char) :
    stringRest (s.toList.flatMap escaped ++ '"' :: rest) = .ok (s, rest) := by
  have long := length_le_length_flatMap_escaped s.toList
  unfold stringRest
  rw [stringBody_flatMap_escaped s.toList rest (by rw [List.length_append]; omega)]
  simp only [bind, Except.bind, String.ofList_toList, pure, Except.pure]

theorem stringText_append (s : String) (rest : List Char) :
    stringText s ++ rest = '"' :: (s.toList.flatMap escaped ++ '"' :: rest) := by
  unfold stringText
  rw [List.append_assoc]
  rfl

/-- `stringAs expected decode` reads a string as what `decode` makes of it. -/
theorem readsAs_stringAs {α : Type} {expected : String} {decode : String → Except Cause α} {s : String} {x : α}
    (h : decode s = .ok x) : ReadsAs (stringAs expected decode) (stringText s) x := by
  intro gap rest space
  have quote : ¬ isSpace '"' := by decide
  unfold stringAs
  rw [List.append_assoc, stringText_append, skipSpace_append_cons space quote]
  simp only [stringRest_flatMap_escaped, bind, Except.bind, h, pure, Except.pure]

/-- `text` reads a string as the text that it is. -/
theorem readsAs_text (s : String) : ReadsAs text (stringText s) s := readsAs_stringAs rfl

/-- `optional read` reads `null` as none. -/
theorem readsAs_optional_null {α : Type} (read : Reads α) : ReadsAs (optional read) "null".toList none := by
  intro gap rest space
  have visible : ¬ isSpace 'n' := by decide
  have null : "null".toList ++ rest = 'n' :: ("ull".toList ++ rest) := rfl
  unfold optional
  rw [List.append_assoc, null, skipSpace_append_cons space visible]
  rfl

/-- `optional read` reads a string as `read` does. -/
theorem readsAs_optional_stringText {α : Type} {read : Reads α} {s : String} {x : α}
    (h : ReadsAs read (stringText s) x) : ReadsAs (optional read) (stringText s) (some x) := by
  intro gap rest space
  have quote : ¬ isSpace '"' := by decide
  have value := h [] rest isGap_nil
  rw [List.nil_append, stringText_append] at value
  unfold optional
  rw [List.append_assoc, stringText_append, skipSpace_append_cons space quote]
  split
  next null => exact absurd (List.cons.inj null).1 (by decide)
  next => simp only [value, bind, Except.bind, pure, Except.pure]

end Gazette.Json
