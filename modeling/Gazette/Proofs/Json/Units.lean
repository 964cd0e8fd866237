import Gazette.Proofs.Json.Tokens
import Mathlib.Tactic.SplitIfs

/-!
# Escapes of units

An escape names a unit of UTF-16 by four digits in base sixteen, `FourDigits`. A character has one unit or, if
it lies behind the first 65536, two, which are halves that stand for nothing else: `Chars.units`. What
`Json.escape` takes for a character are the escapes of its units (`Json.escape_eq_ok_iff`); half a pair is no
character, and neither is a unit with fewer digits. `Escapes units cs` says that `cs` are the escapes of
`units`.
-/

namespace Gazette

/-! ## Units -/

namespace Chars

/-- The units of a character in UTF-16. -/
def units (c : Char) : List Nat :=
  if c.toNat < 0x10000 then [c.toNat]
  else [0xD800 + (c.toNat - 0x10000) / 0x400, 0xDC00 + (c.toNat - 0x10000) % 0x400]

theorem toNat_ofNat {n : Nat} (valid : n.isValidChar) : (Char.ofNat n).toNat = n := by
  rw [Char.ofNat, dif_pos valid]
  rfl

/-- A unit that is no half of a pair is among the `units` of the character of that number, alone. -/
theorem units_ofNat {n : Nat} (small : n < 0x10000) (whole : ¬ (0xD800 ≤ n ∧ n ≤ 0xDFFF)) :
    units (Char.ofNat n) = [n] := by
  have valid : n.isValidChar := by
    unfold Nat.isValidChar
    omega
  rw [units, toNat_ofNat valid, if_pos small]

/-- Two halves are the `units` of the character that lies so far behind the small ones. -/
theorem units_ofNat_pair {high low : Nat} (isHigh : 0xD800 ≤ high ∧ high ≤ 0xDBFF)
    (isLow : 0xDC00 ≤ low ∧ low ≤ 0xDFFF) :
    units (Char.ofNat ((high - 0xD800) * 1024 + (low - 0xDC00) + 0x10000)) = [high, low] := by
  have valid : Nat.isValidChar ((high - 0xD800) * 1024 + (low - 0xDC00) + 0x10000) := by
    unfold Nat.isValidChar
    omega
  have first : 0xD800 + ((high - 0xD800) * 1024 + (low - 0xDC00) + 0x10000 - 0x10000) / 0x400 = high := by omega
  have second : 0xDC00 + ((high - 0xD800) * 1024 + (low - 0xDC00) + 0x10000 - 0x10000) % 0x400 = low := by omega
  rw [units, toNat_ofNat valid, if_neg (by omega), first, second]

theorem units_ne_nil (c : Char) : units c ≠ [] := by
  unfold units
  split <;> exact List.cons_ne_nil _ _

/-- Units have four digits at most. -/
theorem units_lt {c : Char} {n : Nat} (mem : n ∈ units c) : n < 0x10000 := by
  have valid : c.toNat < 0xD800 ∨ 0xDFFF < c.toNat ∧ c.toNat < 0x110000 := c.valid
  unfold units at mem
  split at mem
  next small => exact List.mem_singleton.1 mem ▸ small
  next => rcases List.mem_pair.1 mem with same | same <;> omega

/-- The `units` of a character are its number, which is no half, or two halves, and then it lies as far behind the
small ones as these say. -/
theorem units_cases (c : Char) :
    (units c = [c.toNat] ∧ ¬ (0xD800 ≤ c.toNat ∧ c.toNat ≤ 0xDFFF)) ∨
      ∃ high low, units c = [high, low] ∧ (0xD800 ≤ high ∧ high ≤ 0xDBFF) ∧ (0xDC00 ≤ low ∧ low ≤ 0xDFFF) ∧
        c = Char.ofNat ((high - 0xD800) * 1024 + (low - 0xDC00) + 0x10000) := by
  have valid : c.toNat < 0xD800 ∨ 0xDFFF < c.toNat ∧ c.toNat < 0x110000 := c.valid
  by_cases small : c.toNat < 0x10000
  · exact .inl ⟨if_pos small, by omega⟩
  · refine .inr ⟨_, _, if_neg small, by omega, by omega, ?_⟩
    have same : (0xD800 + (c.toNat - 0x10000) / 0x400 - 0xD800) * 1024 +
        (0xDC00 + (c.toNat - 0x10000) % 0x400 - 0xDC00) + 0x10000 = c.toNat := by omega
    rw [same, Char.ofNat_toNat]

end Chars

/-! ## Digits -/

namespace Number

theorem digitValue?_bounds {c : Char} {v : Nat} (h : digitValue? c = some v) : c.toNat < 128 ∧ v < 16 := by
  have range {low high : Char} (h : low ≤ c ∧ c ≤ high) : low.toNat ≤ c.toNat ∧ c.toNat ≤ high.toNat :=
    ⟨UInt32.le_iff_toNat_le.1 (Char.le_def.1 h.1), UInt32.le_iff_toNat_le.1 (Char.le_def.1 h.2)⟩
  unfold digitValue? at h
  split_ifs at h with between between between
  all_goals
    have ends := range between
    simp only [Char.reduceToNat, Option.some.injEq] at ends h
    omega

/-- What holds of the digits in base sixteen among the first 128 characters holds of all. -/
theorem forall_isHexDigit (P : Char → Prop) (first : ∀ n < 128, isHexDigit (Char.ofNat n) → P (Char.ofNat n))
    {c : Char} (hex : isHexDigit c) : P c := by
  obtain ⟨v, value⟩ := Option.isSome_iff_exists.1 hex
  have known := first c.toNat (digitValue?_bounds value).1
  rw [Char.ofNat_toNat] at known
  exact known hex

/-- `FourDigits n digits`: the number `n` is written in four digits in base sixteen, which may be letters of
either case. -/
structure FourDigits (n : Nat) (digits : List Char) : Prop where
  /-- There are four of them. -/
  length : digits.length = 4
  /-- Each one is a digit. -/
  hex : ∀ d ∈ digits, isHexDigit d
  /-- Together they write the number. -/
  value : valueIn 16 digits = n

instance (n : Nat) (digits : List Char) : Decidable (FourDigits n digits) :=
  decidable_of_iff (digits.length = 4 ∧ digits.all isHexDigit ∧ valueIn 16 digits = n)
    ⟨fun ⟨length, hex, value⟩ ↦ ⟨length, List.all_eq_true.1 hex, value⟩,
      fun h ↦ ⟨h.length, List.all_eq_true.2 h.hex, h.value⟩⟩

/-- `FourDigits` by the values of `digitValue?`. -/
theorem fourDigits_iff {n : Nat} {digits : List Char} : FourDigits n digits ↔ ∃ a b c d : Nat,
    digits.mapM digitValue? = some [a, b, c, d] ∧ n = a * 4096 + b * 256 + c * 16 + d := by
  constructor
  · rintro ⟨four, hex, value⟩
    rcases digits with _ | ⟨c₁, _ | ⟨c₂, _ | ⟨c₃, _ | ⟨c₄, _ | ⟨c₅, more⟩⟩⟩⟩⟩ <;> cases four
    simp only [List.forall_mem_cons, isHexDigit, Option.isSome_iff_exists] at hex
    obtain ⟨⟨a, h₁⟩, ⟨b, h₂⟩, ⟨c, h₃⟩, ⟨d, h₄⟩, -⟩ := hex
    refine ⟨a, b, c, d, by simp [List.mapM_cons, h₁, h₂, h₃, h₄], ?_⟩
    simp only [valueIn, List.foldl_cons, List.foldl_nil, h₁, h₂, h₃, h₄, Option.getD_some] at value
    omega
  · rintro ⟨a, b, c, d, values, rfl⟩
    simp only [mapM_eq_some_iff, List.forall₂_cons_right_iff, List.forall₂_nil_right_iff] at values
    obtain ⟨c₁, _, h₁, ⟨c₂, _, h₂, ⟨c₃, _, h₃, ⟨c₄, _, h₄, rfl, rfl⟩, rfl⟩, rfl⟩, rfl⟩ := values
    refine ⟨rfl, by simp [isHexDigit, h₁, h₂, h₃, h₄], ?_⟩
    simp only [valueIn, List.foldl_cons, List.foldl_nil, h₁, h₂, h₃, h₄, Option.getD_some]
    omega

/-- `Json.hexDigit` writes a unit in `FourDigits`. -/
theorem fourDigits_hexDigits {n : Nat} (small : n < 0x10000) : FourDigits n
    [Json.hexDigit (n / 4096), Json.hexDigit (n / 256 % 16), Json.hexDigit (n / 16 % 16), Json.hexDigit (n % 16)] := by
  have first := Json.digitValue?_hexDigit (n / 4096) (by omega)
  have second := Json.digitValue?_hexDigit (n / 256 % 16) (by omega)
  have third := Json.digitValue?_hexDigit (n / 16 % 16) (by omega)
  have fourth := Json.digitValue?_hexDigit (n % 16) (by omega)
  refine fourDigits_iff.2 ⟨n / 4096, n / 256 % 16, n / 16 % 16, n % 16, ?_, by omega⟩
  simp [List.mapM_cons, first, second, third, fourth]

theorem FourDigits.lt {n : Nat} {digits : List Char} (h : FourDigits n digits) : n < 0x10000 := by
  obtain ⟨a, b, c, d, values, rfl⟩ := fourDigits_iff.1 h
  simp only [mapM_eq_some_iff, List.forall₂_cons_right_iff] at values
  obtain ⟨_, _, h₁, ⟨_, _, h₂, ⟨_, _, h₃, ⟨_, _, h₄, -⟩, -⟩, -⟩, -⟩ := values
  have first := (digitValue?_bounds h₁).2
  have second := (digitValue?_bounds h₂).2
  have third := (digitValue?_bounds h₃).2
  have fourth := (digitValue?_bounds h₄).2
  omega

end Number

/-! ## Reading -/

namespace Json

/-- `hexUnit` reads a unit exactly from `FourDigits`. -/
theorem hexUnit_eq_ok_iff {cs rest : List Char} {n : Nat} :
    hexUnit cs = .ok (n, rest) ↔ ∃ digits, cs = digits ++ rest ∧ Number.FourDigits n digits := by
  constructor
  · intro read
    unfold hexUnit at read
    split at read
    next values =>
      cases read
      exact ⟨cs.take 4, (List.take_append_drop 4 cs).symm, Number.fourDigits_iff.2 ⟨_, _, _, _, values, rfl⟩⟩
    next => cases read
  · rintro ⟨digits, rfl, four⟩
    obtain ⟨a, b, c, d, values, rfl⟩ := Number.fourDigits_iff.1 four
    rw [hexUnit, ← four.length, List.take_left, List.drop_left, values]

/-- `lowHalf` reads the character of a pair exactly from an escape of its second half. -/
theorem lowHalf_eq_ok_iff {high : Nat} {cs rest : List Char} {c : Char} :
    lowHalf high cs = .ok (c, rest) ↔ ∃ low digits, cs = '\\' :: 'u' :: digits ++ rest ∧
      Number.FourDigits low digits ∧ (0xDC00 ≤ low ∧ low ≤ 0xDFFF) ∧
      c = Char.ofNat ((high - 0xD800) * 1024 + (low - 0xDC00) + 0x10000) := by
  constructor
  · intro read
    unfold lowHalf at read
    split at read
    next cs =>
      obtain ⟨⟨low, behind⟩, unit, half⟩ := exists_of_bind read
      obtain ⟨digits, rfl, four⟩ := hexUnit_eq_ok_iff.1 unit
      dsimp only at half
      split at half
      next isLow =>
        obtain ⟨rfl, rfl⟩ := Prod.mk.inj (Except.ok.inj half)
        exact ⟨low, digits, rfl, four, isLow, rfl⟩
      next => cases half
    all_goals cases read
  · rintro ⟨low, digits, rfl, four, isLow, pair⟩
    have unit : hexUnit (digits ++ rest) = .ok (low, rest) := hexUnit_eq_ok_iff.2 ⟨digits, rfl, four⟩
    rw [pair]
    simp only [List.cons_append, lowHalf, unit, bind, Except.bind, isLow, and_self, if_true]
    rfl

/-- Behind its unit `escape` is complete, unless the unit is half of a pair. -/
theorem escape_of_hexUnit {cs rest : List Char} {n : Nat} (unit : hexUnit cs = .ok (n, rest)) :
    escape ('u' :: cs) =
      if 0xDC00 ≤ n ∧ n ≤ 0xDFFF then .error (.before .loneSurrogate rest)
      else if 0xD800 ≤ n ∧ n ≤ 0xDBFF then lowHalf n rest
      else .ok (Char.ofNat n, rest) := by
  simp only [escape, unit, bind, Except.bind]
  rfl

/-- `Escapes units cs`: the run `cs` has an escape for each of the units. -/
inductive Escapes : List Nat → List Char → Prop
  /-- No units. -/
  | nil : Escapes [] []
  /-- A unit in front of others. -/
  | cons {n : Nat} {units : List Nat} {digits cs : List Char} (four : Number.FourDigits n digits)
      (others : Escapes units cs) : Escapes (n :: units) ('\\' :: 'u' :: digits ++ cs)

theorem escapes_nil_iff {cs : List Char} : Escapes [] cs ↔ cs = [] := by
  constructor
  · rintro ⟨⟩
    rfl
  · rintro rfl
    exact .nil

/-- The escape of the first unit stands in front of those of the others. -/
theorem escapes_cons_iff {n : Nat} {units : List Nat} {cs : List Char} : Escapes (n :: units) cs ↔
    ∃ digits others, cs = '\\' :: 'u' :: digits ++ others ∧ Number.FourDigits n digits ∧ Escapes units others := by
  constructor
  · rintro ⟨⟩
    next four others => exact ⟨_, _, rfl, four, others⟩
  · rintro ⟨digits, others, rfl, four, more⟩
    exact .cons four more

theorem escapes_single_iff {n : Nat} {cs : List Char} :
    Escapes [n] cs ↔ ∃ digits, cs = '\\' :: 'u' :: digits ∧ Number.FourDigits n digits := by
  simp [escapes_cons_iff, escapes_nil_iff]

theorem escapes_pair_iff {n m : Nat} {cs : List Char} : Escapes [n, m] cs ↔ ∃ digits digits',
    cs = '\\' :: 'u' :: (digits ++ '\\' :: 'u' :: digits') ∧ Number.FourDigits n digits ∧
      Number.FourDigits m digits' := by
  rw [escapes_cons_iff]
  simp only [escapes_single_iff]
  constructor
  · rintro ⟨digits, _, row, four, digits', rfl, four'⟩
    exact ⟨digits, digits', row, four, four'⟩
  · rintro ⟨digits, digits', row, four, four'⟩
    exact ⟨digits, _, row, four, digits', rfl, four'⟩

/-- `escape` reads a character exactly from the `Escapes` of its `units`. -/
theorem escape_eq_ok_iff {cs rest : List Char} {c : Char} :
    escape ('u' :: cs) = .ok (c, rest) ↔
      ∃ letters, cs = letters ++ rest ∧ Escapes (Chars.units c) ('\\' :: 'u' :: letters) := by
  constructor
  · intro read
    obtain ⟨⟨n, behind⟩, unit, -⟩ := exists_of_bind (show hexUnit cs >>= _ = _ from read)
    rw [escape_of_hexUnit unit] at read
    obtain ⟨digits, rfl, four⟩ := hexUnit_eq_ok_iff.1 unit
    split at read
    next => cases read
    next notLow =>
      split at read
      next isHigh =>
        obtain ⟨low, digits', rfl, four', isLow, pair⟩ := lowHalf_eq_ok_iff.1 read
        refine ⟨digits ++ '\\' :: 'u' :: digits', by simp, ?_⟩
        rw [pair, Chars.units_ofNat_pair isHigh isLow, escapes_pair_iff]
        exact ⟨digits, digits', rfl, four, four'⟩
      next notHigh =>
        obtain ⟨rfl, rfl⟩ := Prod.mk.inj (Except.ok.inj read)
        refine ⟨digits, rfl, ?_⟩
        rw [Chars.units_ofNat four.lt (by omega), escapes_single_iff]
        exact ⟨digits, rfl, four⟩
  · rintro ⟨letters, rfl, named⟩
    rcases Chars.units_cases c with ⟨one, whole⟩ | ⟨high, low, two, isHigh, isLow, pair⟩
    · rw [one, escapes_single_iff] at named
      obtain ⟨_, ⟨⟩, four⟩ := named
      have unit : hexUnit (letters ++ rest) = .ok (c.toNat, rest) := hexUnit_eq_ok_iff.2 ⟨letters, rfl, four⟩
      have notLow : ¬ (0xDC00 ≤ c.toNat ∧ c.toNat ≤ 0xDFFF) := by omega
      have notHigh : ¬ (0xD800 ≤ c.toNat ∧ c.toNat ≤ 0xDBFF) := by omega
      rw [escape_of_hexUnit unit, if_neg notLow, if_neg notHigh, Char.ofNat_toNat]
    · rw [two, escapes_pair_iff] at named
      obtain ⟨digits, digits', ⟨⟩, four, four'⟩ := named
      have unit : hexUnit (digits ++ ('\\' :: 'u' :: digits' ++ rest)) = .ok (high, '\\' :: 'u' :: digits' ++ rest) :=
        hexUnit_eq_ok_iff.2 ⟨digits, rfl, four⟩
      have half : lowHalf high ('\\' :: 'u' :: digits' ++ rest) = .ok (c, rest) :=
        lowHalf_eq_ok_iff.2 ⟨low, digits', rfl, four', isLow, pair⟩
      have notLow : ¬ (0xDC00 ≤ high ∧ high ≤ 0xDFFF) := by omega
      rw [List.append_assoc, escape_of_hexUnit unit, if_neg notLow, if_pos isHigh, half]

section Escapes

variable {units : List Nat} {letters : List Char}

theorem Escapes.exists_cons (h : Escapes units letters) (some : units ≠ []) :
    ∃ rest, letters = '\\' :: 'u' :: rest := by
  cases h with
  | nil => exact absurd rfl some
  | cons => exact ⟨_, rfl⟩

/-- The characters of `Escapes` are backslashes, the letter `u` and digits. -/
theorem Escapes.forall_mem {P : Char → Prop} (h : Escapes units letters) (backslash : P '\\') (letter : P 'u')
    (digit : ∀ c, Number.isHexDigit c → P c) : ∀ c ∈ letters, P c := by
  induction h with
  | nil => exact List.forall_mem_nil _
  | cons four _ ih =>
    refine List.forall_mem_cons.2 ⟨backslash, List.forall_mem_cons.2 ⟨letter, ?_⟩⟩
    exact List.forall_mem_append.2 ⟨fun d mem ↦ digit d (four.hex d mem), ih⟩

theorem Escapes.isEscapeChar (h : Escapes units letters) : ∀ c ∈ letters, IsEscapeChar c :=
  h.forall_mem (.inr (by simp)) (.inr (by simp)) fun _ ↦ .inl

/-- The `Escapes` of some units stand in front of those of others. -/
theorem Escapes.exists_append {others : List Nat} (h : Escapes (units ++ others) letters) :
    ∃ front back, letters = front ++ back ∧ Escapes units front ∧ Escapes others back := by
  induction units generalizing letters with
  | nil => exact ⟨[], letters, rfl, .nil, h⟩
  | cons n units ih =>
    obtain ⟨digits, rest, rfl, four, more⟩ := escapes_cons_iff.1 h
    obtain ⟨front, back, rfl, first, second⟩ := ih more
    exact ⟨'\\' :: 'u' :: digits ++ front, back, by simp, .cons four first, second⟩

/-- Behind its first two characters what `Escapes` the `units` of a character is read by `escape`, whatever
follows. -/
theorem Escapes.reads {c : Char} (h : Escapes (Chars.units c) letters) : ∃ rest, letters = '\\' :: 'u' :: rest ∧
    ∀ more, escape ('u' :: rest ++ more) = .ok (c, more) := by
  obtain ⟨rest, rfl⟩ := h.exists_cons (Chars.units_ne_nil c)
  exact ⟨rest, rfl, fun more ↦ escape_eq_ok_iff.2 ⟨rest, rfl, h⟩⟩

/-- Every row of units has `Escapes`. -/
theorem exists_escapes (small : ∀ n ∈ units, n < 0x10000) : ∃ letters, Escapes units letters := by
  induction units with
  | nil => exact ⟨[], .nil⟩
  | cons n units ih =>
    obtain ⟨first, rest⟩ := List.forall_mem_cons.1 small
    obtain ⟨letters, others⟩ := ih rest
    exact ⟨_, .cons (Number.fourDigits_hexDigits first) others⟩

end Escapes

theorem text_quote (cs : List Char) : text ('"' :: cs) = stringRest cs := by
  have visible : skipSpace ('"' :: cs) = '"' :: cs := rfl
  simp only [text, stringAs, visible, bind, Except.bind]
  cases stringRest cs <;> rfl

end Json

end Gazette
