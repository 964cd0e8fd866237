import Gazette.Unicode.Composition

/-!
# Normal form

Canonical composition, `normalize`: characters are taken apart (`decomposeOne`), marks brought into canonical
order (`orderedReversed`), and what can be composed is composed (`composeFrom`). Hangul syllables are computed,
all else is looked up.
-/

namespace Gazette.Unicode

/-- The parts of a Hangul syllable. -/
def hangulParts? (n : Nat) : Option (List Nat) :=
  if 0xAC00 ≤ n ∧ n ≤ 0xD7A3 then
    let s := n - 0xAC00
    let lead := [0x1100 + s / 588, 0x1161 + s % 588 / 28]
    some (if s % 28 = 0 then lead else lead ++ [0x11A7 + s % 28])
  else none

/-- The full decomposition of a code point, its first part taken apart at most `fuel` times. -/
def decomposeAt : Nat → Nat → List Nat
  | 0, n => [n]
  | fuel + 1, n =>
    match hangulParts? n with
    | some parts => parts
    | none =>
      match decompositions.find? (·.1 == n), compositionPairs.find? (·.1 == n) with
      | some (_, parts), _ => parts
      | none, some (_, a, b) => decomposeAt fuel a ++ [b]
      | none, none => [n]

/-- The full decomposition of a code point. No decomposition is nested more than three deep. -/
def decomposeOne (n : Nat) : List Nat := if n < 0xC0 then [n] else decomposeAt 4 n

/-- Code points, last one first, with the marks in canonical order. -/
def orderedReversed (points : List Nat) : List Nat :=
  let place (seen : List Nat) (n : Nat) : List Nat :=
    if combiningClass n = 0 then n :: seen
    else
      let higher := seen.takeWhile fun m ↦ combiningClass n < combiningClass m
      higher ++ n :: seen.drop higher.length
  points.foldl place []

def compose? (a b : Nat) : Option Nat :=
  if 0x1100 ≤ a ∧ a < 0x1113 ∧ 0x1161 ≤ b ∧ b < 0x1176 then
    some (0xAC00 + ((a - 0x1100) * 21 + (b - 0x1161)) * 28)
  else if 0xAC00 ≤ a ∧ a ≤ 0xD7A3 ∧ (a - 0xAC00) % 28 = 0 ∧ 0x11A8 ≤ b ∧ b < 0x11C3 then
    some (a + (b - 0x11A7))
  else (compositionPairs.find? fun (_, x, y) ↦ x == a && y == b).map (·.1)

/-- Composition of ordered code points. `starter` is the last starter, `passed` what stands behind
it, last one first, and `done` what stands before it, last one first. -/
def composeFrom (done : List Nat) (starter : Option Nat) (passed : List Nat) :
    List Nat → List Nat
  | [] => done.reverse ++ starter.toList ++ passed.reverse
  | n :: rest =>
    let c := combiningClass n
    match starter with
    | none =>
      if c = 0 then composeFrom (passed ++ done) (some n) [] rest
      else composeFrom done none (n :: passed) rest
    | some s =>
      let blocked := match passed with
        | [] => false
        | last :: _ => combiningClass last = 0 || c ≤ combiningClass last
      match if blocked then none else compose? s n with
      | some whole => composeFrom done (some whole) passed rest
      | none =>
        if c = 0 then composeFrom (passed ++ s :: done) (some n) [] rest
        else composeFrom done (some s) (n :: passed) rest

/-- The canonical composition of a run of characters. -/
def normalize (cs : List Char) : List Char :=
  let points := cs.flatMap fun c ↦ decomposeOne c.toNat
  (composeFrom [] none [] (orderedReversed points).reverse).map Char.ofNat

end Gazette.Unicode
