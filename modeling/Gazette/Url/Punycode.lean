/-!
# Punycode

A label with characters outside ASCII as ASCII letters, digits and hyphens, after RFC 3492. The ASCII
characters come first; behind them numbers in digits of growing weight say which character comes
next and where it goes.
-/

namespace Gazette.Url.Punycode

/-- The digit of a number below 36: `a` to `z`, then `0` to `9`. -/
def digit (n : Nat) : Char :=
  if n < 26 then Char.ofNat ('a'.toNat + n) else Char.ofNat ('0'.toNat + (n - 26))

/-- The number of a `digit`. -/
def value? (c : Char) : Option Nat :=
  if 'a' ≤ c ∧ c ≤ 'z' then some (c.toNat - 'a'.toNat)
  else if 'A' ≤ c ∧ c ≤ 'Z' then some (c.toNat - 'A'.toNat)
  else if '0' ≤ c ∧ c ≤ '9' then some (c.toNat - '0'.toNat + 26)
  else none

/-- Division by 35 until the number is at most 455, counting 36 for each division. -/
def settle : Nat → Nat → Nat → Nat
  | 0, k, _ => k
  | fuel + 1, k, delta => if 455 < delta then settle fuel (k + 36) (delta / 35) else
      k + 36 * delta / (delta + 38)

/-- The bias after a number, which keeps the next one short. -/
def adapt (delta count : Nat) (first : Bool) : Nat :=
  let halved := if first then delta / 700 else delta / 2
  settle 40 0 (halved + halved / count)

/-- The weight limit of the digit at position `k`. -/
def threshold (k bias : Nat) : Nat := if k ≤ bias then 1 else min 26 (k - bias)

/-- A number in digits of growing weight. `fuel` bounds the count of digits. -/
def encodeNumber : Nat → Nat → Nat → Nat → List Char
  | 0, _, _, _ => []
  | fuel + 1, bias, k, q =>
    let t := threshold k bias
    if q < t then [digit q]
    else digit (t + (q - t) % (36 - t)) :: encodeNumber fuel bias (k + 36) ((q - t) / (36 - t))

/-- The number in front of a run of digits, and what follows it. -/
def decodeNumber (bias : Nat) : Nat → Nat → Nat → List Char → Option (Nat × List Char)
  | _, _, _, [] => none
  | i, w, k, c :: rest => do
    let d ← value? c
    let i := i + d * w
    if 0xFFFFFFFF < i then none
    let t := threshold k bias
    if d < t then some (i, rest) else decodeNumber bias i (w * (36 - t)) (k + 36) rest

/-- The state of encoding: the next code point, the number not yet written, the bias, and how many
characters are written. -/
structure Progress where
  /-- The code point up to which all is written. -/
  point : Nat
  /-- The steps since the last number. -/
  delta : Nat
  /-- The bias for the next number. -/
  bias : Nat
  /-- The count of characters written. -/
  count : Nat

/-- One pass over the label: writes the places of the code point `p.point`. -/
def encodePass (basic : Nat) (p : Progress) (label : List Nat) : Progress × List Char :=
  label.foldl (fun (p, out) c ↦
    if c < p.point then (⟨p.point, p.delta + 1, p.bias, p.count⟩, out)
    else if c = p.point then
      (⟨p.point, 0, adapt p.delta (p.count + 1) (p.count == basic), p.count + 1⟩,
        out ++ encodeNumber 40 p.bias 36 p.delta)
    else (p, out)) (p, [])

/-- The passes for the code points of the label that are not yet written, least first. -/
def encodePasses (basic : Nat) (label : List Nat) : Nat → Progress → List Char
  | 0, _ => []
  | fuel + 1, p =>
    match (label.filter (p.point ≤ ·)).min? with
    | none => []
    | some m =>
      let start : Progress := ⟨m, p.delta + (m - p.point) * (p.count + 1), p.bias, p.count⟩
      let (q, out) := encodePass basic start label
      out ++ encodePasses basic label fuel ⟨q.point + 1, q.delta + 1, q.bias, q.count⟩

/-- The encoding of a label, by `encodePasses` over its code points. -/
def encode (label : List Char) : List Char :=
  let basic := label.filter fun c ↦ c.toNat < 0x80
  let head := if basic.isEmpty then [] else basic ++ ['-']
  head ++ encodePasses basic.length (label.map Char.toNat) (label.length + 1)
    ⟨0x80, 0, 72, basic.length⟩

/-- The characters that the numbers in `cs` add to `out`. -/
def decodeFrom (cs : List Char) (out : List Nat) (n i bias : Nat) : Nat → Option (List Nat)
  | 0 => none
  | fuel + 1 =>
    if cs.isEmpty then some out
    else do
      let (j, rest) ← decodeNumber bias i 1 36 cs
      let count := out.length + 1
      let n := n + j / count
      if 0x10FFFF < n ∨ (0xD800 ≤ n ∧ n ≤ 0xDFFF) then none
      let place := j % count
      decodeFrom rest (out.take place ++ n :: out.drop place) n (place + 1)
        (adapt (j - i) count (i == 0)) fuel

/-- The label that a run of ASCII characters encodes, by `decodeFrom` behind the last hyphen. -/
def decode? (cs : List Char) : Option (List Char) :=
  let tail := (cs.reverse.takeWhile (· != '-')).reverse
  let head := cs.take (cs.length - tail.length - 1)
  if cs.all fun c ↦ c.toNat < 0x80 then
    (decodeFrom tail (head.map Char.toNat) 0x80 0 72 (cs.length + 1)).map fun points ↦
      points.map Char.ofNat
  else none

end Gazette.Url.Punycode
