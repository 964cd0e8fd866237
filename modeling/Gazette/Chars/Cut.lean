/-!
# Cutting runs of characters

Searching, splitting and replacing in a `List Char`. All searches go from the left, and matches of
a separator do not overlap.
-/

namespace Gazette.Chars

/-- What follows `lead` at the front of a run, if `lead` stands there. -/
def after? (lead : List Char) (cs : List Char) : Option (List Char) :=
  match lead, cs with
  | [], cs => some cs
  | _ :: _, [] => none
  | a :: lead, c :: cs => if a = c then after? lead cs else none

/-- Whether `lead` stands at the front of a run. -/
def startsWith (lead : List Char) (cs : List Char) : Bool := (after? lead cs).isSome

/-- What precedes `tail` at the back of a run, if `tail` stands there. -/
def before? (tail : List Char) (cs : List Char) : Option (List Char) :=
  (after? tail.reverse cs.reverse).map List.reverse

/-- A run without `lead` at its front, where it stands there. -/
def dropLead (lead : List Char) (cs : List Char) : List Char := (after? lead cs).getD cs

/-- A run without `tail` at its back, where it stands there. -/
def dropTail (tail : List Char) (cs : List Char) : List Char := (before? tail cs).getD cs

/-- The first answer that `f` gives on the run or, from left to right, on one of its tails. -/
def firstSome? {α : Type} (f : List Char → Option α) : List Char → Option α
  | [] => f []
  | c :: cs =>
    match f (c :: cs) with
    | some a => some a
    | none => firstSome? f cs

/-- The first answer that `f` gives on the run or, from left to right, on one of its tails, with what
stands in front of that tail. -/
def firstPlace? {α : Type} (f : List Char → Option α) : List Char → Option (List Char × α)
  | [] => (f []).map fun a ↦ ([], a)
  | c :: cs =>
    match f (c :: cs) with
    | some a => some ([], a)
    | none => (firstPlace? f cs).map fun (head, a) ↦ (c :: head, a)

/-- The parts of a run before and after the first place where `mark` stands. -/
def cut? (mark : List Char) : List Char → Option (List Char × List Char)
  | [] => (after? mark []).map fun rest ↦ ([], rest)
  | c :: cs =>
    match after? mark (c :: cs) with
    | some rest => some ([], rest)
    | none => (cut? mark cs).map fun (head, rest) ↦ (c :: head, rest)

/-- Whether `mark` stands somewhere in a run. -/
def contains (mark : List Char) (cs : List Char) : Bool :=
  (firstSome? (after? mark) cs).isSome

/-- The remainder after a mark that stands in front is no longer than the run. -/
theorem length_after? {lead cs rest : List Char} (h : after? lead cs = some rest) :
    rest.length + lead.length = cs.length := by
  induction lead generalizing cs with
  | nil => cases h; rfl
  | cons a lead ih =>
    cases cs with
    | nil => cases h
    | cons c cs =>
      simp only [after?] at h
      split at h
      · have := ih h
        simp only [List.length_cons]
        omega
      · cases h

/-- The pieces of a run between the places where the character `mark` stands. There is always one
piece more than there are marks. -/
def splitAtChar (mark : Char) : List Char → List (List Char)
  | [] => [[]]
  | c :: cs =>
    if c = mark then [] :: splitAtChar mark cs
    else
      match splitAtChar mark cs with
      | [] => [[c]]
      | piece :: pieces => (c :: piece) :: pieces

/-- The pieces of a run between the places where the characters `a :: more` stand in a row. -/
def splitAtMark (a : Char) (more : List Char) (cs : List Char) : List (List Char) :=
  match cs with
  | [] => [[]]
  | c :: cs =>
    match _h : after? (a :: more) (c :: cs) with
    | some rest => [] :: splitAtMark a more rest
    | none =>
      match splitAtMark a more cs with
      | [] => [[c]]
      | piece :: pieces => (c :: piece) :: pieces
termination_by cs.length
decreasing_by
  · have := length_after? _h
    simp only [List.length_cons] at this ⊢
    omega
  · simp

/-- The pieces of a run between the places where `mark` stands. No mark cuts nothing. -/
def splitOn (mark : List Char) (cs : List Char) : List (List Char) :=
  match mark with
  | [] => [cs]
  | [a] => splitAtChar a cs
  | a :: more => splitAtMark a more cs

/-- The pieces put back together, `mark` between them. -/
def joinWith (mark : List Char) : List (List Char) → List Char
  | [] => []
  | [piece] => piece
  | piece :: pieces => piece ++ mark ++ joinWith mark pieces

/-- A run with `new` wherever `old` stood. -/
def replace (old new : List Char) (cs : List Char) : List Char := joinWith new (splitOn old cs)

/-- A run with `new` at the first place where `old` stood. -/
def replaceFirst (old new : List Char) (cs : List Char) : List Char :=
  match cut? old cs with
  | some (head, rest) => head ++ new ++ rest
  | none => cs

/-- Lower case for the letters `A` to `Z`; all other characters stay. -/
def asciiLower (cs : List Char) : List Char := cs.map Char.toLower

end Gazette.Chars
