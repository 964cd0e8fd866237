import Gazette.Number.Binary64
import Gazette.Number.Digits

/-!
# The shortest decimal that reads back

Of all decimals that round to a binary number, `Binary64.shortest` takes one with the fewest digits,
and of those the nearest. For each count of digits only the two neighbours of the number on the
decimal grid need to be tried: a grid with a point between the bounds has one there.
-/

namespace Gazette.Number

/-- The digits of a decimal and the place of the point: `digits` stands for
`0.d₁d₂… * 10 ^ point`. -/
structure Decimal where
  /-- The digits, the first and the last other than zero. -/
  digits : List Char
  /-- The place of the point, counted from the front of the digits. -/
  point : Int
deriving DecidableEq, Repr

namespace Binary64

/-- `10 ^ k` as numerator and denominator. -/
def tenPow (k : Int) : Nat × Nat := if 0 ≤ k then (Nat.pow 10 k.toNat, 1) else (1, Nat.pow 10 (-k).toNat)

/-- `n * 10 ^ k` in units of `2 ^ e / 4`, as numerator and denominator. -/
def inQuarters (n : Nat) (k e : Int) : Nat × Nat :=
  let (a, b) := tenPow k
  let (c, d) := scaled 4 1 e
  (n * a * c, b * d)

/-- Whether `n * 10 ^ k` rounds to the number: it lies between the bounds, or on one of them if the
mantissa is even. -/
def readsBack (x : Binary64) (n : Nat) (k : Int) : Bool :=
  let (num, den) := inQuarters n k x.exponent
  let (low, high) := x.bounds
  if x.mantissa % 2 = 0 then low * den ≤ num && num ≤ high * den
  else low * den < num && num < high * den

/-- Whether `n * 10 ^ k` lies farther below the number than `(n + 1) * 10 ^ k` above it, or as far
while `n` is odd. -/
def upperIsNearer (x : Binary64) (n : Nat) (k : Int) : Bool :=
  let (num, den) := inQuarters (2 * n + 1) k x.exponent
  let twice := 8 * x.mantissa * den
  num < twice || (num = twice && n % 2 = 1)

/-- The floor of the number over `10 ^ k`. -/
def floorOver (x : Binary64) (k : Int) : Nat :=
  let (a, b) := x.toRatio
  let (c, d) := tenPow k
  a * d / (b * c)

/-- The multiple of `10 ^ k` that `readsBack`, the nearest if two do. -/
def gridPoint? (x : Binary64) (k : Int) : Option Nat :=
  let n := x.floorOver k
  match x.readsBack n k, x.readsBack (n + 1) k with
  | true, true => some (if x.upperIsNearer n k then n + 1 else n)
  | true, false => some n
  | false, true => some (n + 1)
  | false, false => none

/-- The place of the point of the number: the least `p` with the number below `10 ^ p`, searched
downwards from `p`. -/
def pointFrom (x : Binary64) : Nat → Int → Int
  | 0, p => p
  | fuel + 1, p => if x.floorOver (p - 1) = 0 then pointFrom x fuel (p - 1) else p

/-- The first grid with a point that rounds to the number. -/
def firstGrid (x : Binary64) (point : Int) : Nat → Nat → Nat × Int
  | 0, n => (x.floorOver (point - n), point - n)
  | fuel + 1, n =>
    match x.gridPoint? (point - n) with
    | some m => (m, point - n)
    | none => firstGrid x point fuel (n + 1)

/-- The shortest decimal that rounds to a number other than zero: the point of the `firstGrid` without the zeros
at its end. -/
def shortest (x : Binary64) : Decimal :=
  let (n, k) := firstGrid x (x.pointFrom 640 310) 17 1
  let digits := decimal n
  ⟨(digits.reverse.dropWhile (· == '0')).reverse, k + digits.length⟩

end Binary64

/-- One tenth, the number above `2 ^ 64 - 1`, and the least number of all. -/
example : ((Binary64.ofRatio 1 10).map Binary64.shortest = some ⟨['1'], 0⟩) ∧
    (Binary64.ofNat (2 ^ 64)).map Binary64.shortest = some ⟨"18446744073709552".toList, 20⟩ ∧
    Binary64.shortest ⟨1, -1074⟩ = ⟨['5'], -323⟩ := by decide +kernel

end Gazette.Number
