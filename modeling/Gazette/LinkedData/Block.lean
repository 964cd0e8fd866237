import Gazette.Text

/-!
# Blocks of linked data

A script may hold several objects in a row. A block runs from an opening brace to the brace that brings the
count of open braces back to zero (`closing?`); braces in strings count too. What does not close is no block,
nor is anything behind it. `block?` is the first block of a type.
-/

namespace Gazette.LinkedData

/-- The characters up to the brace that closes `depth` open braces, that brace included, and the
characters behind it. -/
def closing? (depth : Nat) : List Char → Option (List Char × List Char)
  | [] => none
  | c :: cs =>
    if c = '\x7b' then (closing? (depth + 1) cs).map fun (block, rest) ↦ (c :: block, rest)
    else if c = '\x7d' then
      if depth ≤ 1 then some ([c], cs)
      else (closing? (depth - 1) cs).map fun (block, rest) ↦ (c :: block, rest)
    else (closing? depth cs).map fun (block, rest) ↦ (c :: block, rest)

theorem append_of_closing? {depth : Nat} {cs block rest : List Char}
    (h : closing? depth cs = some (block, rest)) : block ++ rest = cs := by
  induction cs generalizing depth block with
  | nil => cases h
  | cons c cs ih =>
    simp only [closing?] at h
    split at h
    · obtain ⟨⟨b, r⟩, hb, he⟩ := Option.map_eq_some_iff.1 h
      cases he
      simp [ih hb]
    · split at h
      · split at h
        · cases h; rfl
        · obtain ⟨⟨b, r⟩, hb, he⟩ := Option.map_eq_some_iff.1 h
          cases he
          simp [ih hb]
      · obtain ⟨⟨b, r⟩, hb, he⟩ := Option.map_eq_some_iff.1 h
        cases he
        simp [ih hb]

/-- The mark in front of a type. -/
def typeMark : List Char := "@type".toList

/-- Whether what follows a `typeMark`, up to the next comma, holds `target`. -/
def fieldHolds (target : List Char) (cs : List Char) : Bool :=
  Chars.startsWith typeMark cs && Chars.contains target (cs.takeWhile (· ≠ ','))

/-- Whether behind some `typeMark` of a block stands `target`, up to the next comma. -/
def hasType (target : List Char) (cs : List Char) : Bool :=
  (Chars.firstSome? (fun tail ↦ if fieldHolds target tail then some () else none) cs).isSome

/-- The first block of a text that has the type `target`. -/
def blockOf? (target : List Char) (cs : List Char) : Option (List Char) :=
  match cs with
  | [] => none
  | c :: cs =>
    if c = '\x7b' then
      match _h : closing? 1 cs with
      | none => none
      | some (block, rest) =>
        if hasType target (c :: block) then some (c :: block) else blockOf? target rest
    else blockOf? target cs
termination_by cs.length
decreasing_by
  · have := congrArg List.length (append_of_closing? _h)
    simp only [List.length_append, List.length_cons] at this ⊢
    omega
  · simp

/-- The first block of a string that has the type `target`. -/
def block? (target s : String) : Option String := (blockOf? target.toList s.toList).map String.ofList

/-- Whether `hasType` of a string. -/
def mentions (target s : String) : Bool := hasType target.toList s.toList

end Gazette.LinkedData
