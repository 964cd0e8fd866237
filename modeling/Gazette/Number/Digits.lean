/-!
# Digits

Naturals as digits write them (`valueIn`, `decimal`), in bases up to sixteen. Letters stand for the digits from
ten on, in either case.
-/

namespace Gazette.Number

/-- The value of a digit. -/
def digitValue? (c : Char) : Option Nat :=
  if '0' ≤ c ∧ c ≤ '9' then some (c.toNat - '0'.toNat)
  else if 'a' ≤ c ∧ c ≤ 'f' then some (c.toNat - 'a'.toNat + 10)
  else if 'A' ≤ c ∧ c ≤ 'F' then some (c.toNat - 'A'.toNat + 10)
  else none

def isHexDigit (c : Char) : Bool := (digitValue? c).isSome

/-- The natural that digits write. -/
def valueIn (base : Nat) (digits : List Char) : Nat :=
  digits.foldl (fun n c ↦ n * base + (digitValue? c).getD 0) 0

/-- A natural in decimal digits. -/
def decimal (n : Nat) : List Char := Nat.toDigits 10 n

/-- `decimal` as a string. -/
def decimalText (n : Nat) : String := String.ofList (decimal n)

/-- Digits of either case have one value, and no leading zero changes that of a number. -/
example : valueIn 16 "fF".toList = 255 ∧ valueIn 10 "007".toList = 7 ∧ decimal 0 = ['0'] := by decide

end Gazette.Number
