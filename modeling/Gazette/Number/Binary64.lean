/-!
# Binary floating point

Finite binary numbers of double width without their sign, `mantissa * 2 ^ exponent`, in exact
arithmetic on naturals. Every operation rounds its exact result once, to the nearest number and to
an even mantissa in the middle between two.
-/

namespace Gazette.Number

/-- A finite number `mantissa * 2 ^ exponent` that is not negative. -/
structure Binary64 where
  /-- The mantissa, below `2 ^ 53`. -/
  mantissa : Nat
  /-- The exponent, from -1074 to 971. -/
  exponent : Int
deriving DecidableEq, Repr

namespace Binary64

def zero : Binary64 := ⟨0, -1074⟩

/-- The quotient of two naturals after both are scaled so that it counts units of `2 ^ e`. -/
def scaled (num den : Nat) (e : Int) : Nat × Nat :=
  if 0 ≤ e then (num, den * Nat.pow 2 e.toNat) else (num * Nat.pow 2 (-e).toNat, den)

/-- The nearest natural to a quotient, the even one of two. -/
def nearest (num den : Nat) : Nat :=
  let q := num / den
  let r := num % den
  if 2 * r < den then q
  else if den < 2 * r then q + 1
  else if q % 2 = 0 then q else q + 1

/-- The exponent at which a quotient has 53 binary places, or the least exponent. -/
def exponentFor (num den : Nat) : Int :=
  let e : Int := max (-1074) ((num.log2 : Int) - den.log2 - 53)
  let (n, d) := scaled num den e
  if Nat.pow 2 53 ≤ n / d then e + 1 else e

/-- The number `nearest` to `num / den` at `exponentFor` it; none where that lies beyond the greatest number. -/
def ofRatio (num den : Nat) : Option Binary64 :=
  if num = 0 then some zero
  else
    let e := exponentFor num den
    let (n, d) := scaled num den e
    let m := nearest n d
    let x : Binary64 := if m = Nat.pow 2 53 then ⟨Nat.pow 2 52, e + 1⟩ else ⟨m, e⟩
    if 971 < x.exponent then none else some x

/-- Numerator and denominator of a number. -/
def toRatio (x : Binary64) : Nat × Nat :=
  if 0 ≤ x.exponent then (x.mantissa * Nat.pow 2 x.exponent.toNat, 1)
  else (x.mantissa, Nat.pow 2 (-x.exponent).toNat)

/-- The number nearest to a natural, by `ofRatio`. -/
def ofNat (n : Nat) : Option Binary64 := ofRatio n 1

/-- The product, by `ofRatio` of the exact one. -/
def mul (x y : Binary64) : Option Binary64 :=
  let (a, b) := x.toRatio
  let (c, d) := y.toRatio
  ofRatio (a * c) (b * d)

/-- The quotient by a number other than zero, by `ofRatio` of the exact one. -/
def div (x y : Binary64) : Option Binary64 :=
  let (a, b) := x.toRatio
  let (c, d) := y.toRatio
  ofRatio (a * d) (b * c)

/-- The middle between a number and the one below it, and between it and the one above it, over
`4 / 2 ^ exponent`. Below a power of two numbers lie twice as close. -/
def bounds (x : Binary64) : Nat × Nat :=
  (if x.mantissa = Nat.pow 2 52 ∧ -1074 < x.exponent then 4 * x.mantissa - 1 else 4 * x.mantissa - 2,
    4 * x.mantissa + 2)

end Binary64

/-- A tie goes to the even mantissa, and a sum of places past the greatest number has no value. -/
example : Binary64.ofNat (2 ^ 53 + 1) = some ⟨2 ^ 52, 1⟩ ∧ Binary64.ofRatio 3 2 = some ⟨3 * 2 ^ 51, -52⟩ ∧
    Binary64.ofNat (10 ^ 309) = none := by decide +kernel

end Gazette.Number
