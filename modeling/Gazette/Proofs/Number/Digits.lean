import Gazette.Number.Digits

/-!
# Reading digits back

The digits of a natural (`decimal`) stand for it (`valueIn_decimal`), and zeros in front of them change nothing
(`valueIn_replicate_append`).
-/

namespace Gazette.Number

/-- `digitValue?` of a decimal digit is its place in the row of digits. -/
theorem digitValue?_of_isDigit {c : Char} (h : c.isDigit) : digitValue? c = some (c.toNat - '0'.toNat) := by
  rw [Char.isDigit, Bool.and_eq_true, decide_eq_true_iff, decide_eq_true_iff] at h
  exact if_pos h

/-- Decimal digits that are read one by one with `digitValue?` have the value that `Nat.ofDigitChars` gives them
together. -/
theorem foldl_digits {digits : List Char} (all : ∀ c ∈ digits, c.isDigit) (n : Nat) :
    digits.foldl (fun n c ↦ n * 10 + (digitValue? c).getD 0) n = Nat.ofDigitChars 10 digits n := by
  induction digits generalizing n with
  | nil => rfl
  | cons c digits ih =>
    have value := digitValue?_of_isDigit (all c List.mem_cons_self)
    rw [List.foldl_cons, ih fun c mem ↦ all c (List.mem_cons_of_mem _ mem), value, Option.getD_some,
      Nat.ofDigitChars_cons, Nat.mul_comm]

/-- The characters of `decimal` are digits. -/
theorem isDigit_of_mem_decimal {n : Nat} {c : Char} (mem : c ∈ decimal n) : c.isDigit :=
  Nat.isDigit_of_mem_toDigits (by decide) (by decide) mem

/-- `decimal` of a natural below `10 ^ k` has at most `k` digits. -/
theorem length_decimal_le {n k : Nat} (positive : 0 < k) (h : n < Nat.pow 10 k) : (decimal n).length ≤ k :=
  (Nat.length_toDigits_le_iff (by decide) positive).2 h

/-- `valueIn 10` undoes `decimal`. -/
theorem valueIn_decimal (n : Nat) : valueIn 10 (decimal n) = n := by
  rw [valueIn, foldl_digits fun c ↦ isDigit_of_mem_decimal]
  exact Nat.ofDigitChars_ten_toDigits

/-- `digitValue?` of a decimal digit is less than ten. -/
theorem digitValue?_getD_lt {c : Char} (h : c.isDigit) : (digitValue? c).getD 0 < 10 := by
  rw [digitValue?_of_isDigit h, Option.getD_some]
  rw [Char.isDigit, Bool.and_eq_true, decide_eq_true_iff, decide_eq_true_iff] at h
  have high : c.toNat ≤ 57 := h.2
  have zero : '0'.toNat = 48 := rfl
  omega

/-- Digits read behind `n` stand for less than `n + 1` with zeros in their place. -/
theorem foldl_digits_lt {digits : List Char} (all : ∀ c ∈ digits, c.isDigit) (n : Nat) :
    digits.foldl (fun n c ↦ n * 10 + (digitValue? c).getD 0) n < (n + 1) * Nat.pow 10 digits.length := by
  induction digits generalizing n with
  | nil => exact Nat.lt_of_lt_of_eq (Nat.lt_succ_self n) (Nat.mul_one _).symm
  | cons c digits ih =>
    have digit := digitValue?_getD_lt (all c List.mem_cons_self)
    have rest := ih (fun c mem ↦ all c (List.mem_cons_of_mem _ mem)) (n * 10 + (digitValue? c).getD 0)
    have next : n * 10 + (digitValue? c).getD 0 + 1 ≤ (n + 1) * 10 := by omega
    have grown := Nat.mul_le_mul_right (Nat.pow 10 digits.length) next
    have zeros : (n + 1) * Nat.pow 10 (digits.length + 1) = (n + 1) * 10 * Nat.pow 10 digits.length := by
      rw [Nat.mul_assoc, Nat.mul_comm 10]
      rfl
    rw [List.foldl_cons, List.length_cons, zeros]
    exact Nat.lt_of_lt_of_le rest grown

/-- `valueIn 10` of some digits is below the power of ten with as many zeros. -/
theorem valueIn_lt {digits : List Char} (all : ∀ c ∈ digits, c.isDigit) :
    valueIn 10 digits < Nat.pow 10 digits.length := by
  have less := foldl_digits_lt all 0
  rwa [Nat.zero_add, Nat.one_mul] at less

/-- Zeros in front of digits do not change `valueIn 10`. -/
theorem valueIn_replicate_append (k : Nat) (digits : List Char) :
    valueIn 10 (List.replicate k '0' ++ digits) = valueIn 10 digits := by
  induction k with
  | zero => rfl
  | succ k ih => exact ih

end Gazette.Number
