import Gazette.Bytes.Utf8
import Gazette.Proofs.LinkedData.Blocks

/-!
# Blocks by their bytes

A block can be looked for among the bytes of a text, with places counted in bytes (`scan?`). Taking a piece of
the text between two places (`Utf8.slice?`) then fails if one of them is within a character. It never does here:
a byte that is a brace is a character of its own, since all bytes of a character that has several are beyond
those of one. So the search by bytes finds what `LinkedData.block?` finds: `scanBlock?_eq`.
-/

namespace Gazette

namespace Utf8

/-! ## Bytes of characters -/

theorem encode_cons (c : Char) (cs : List Char) : encode (c :: cs) = String.utf8EncodeChar c ++ encode cs :=
  List.flatMap_cons

theorem encode_append (cs ds : List Char) : encode (cs ++ ds) = encode cs ++ encode ds := List.flatMap_append

/-- The bytes of a character that has several are 128 or more. -/
theorem le_of_mem_utf8EncodeChar {c : Char} (wide : 128 ≤ c.toNat) {b : UInt8}
    (mem : b ∈ String.utf8EncodeChar c) : 128 ≤ b.toNat := by
  have size : 0x7f < c.val.toNat := wide
  simp only [String.utf8EncodeChar, if_neg (Nat.not_le.2 size)] at mem
  split at mem
  next =>
    simp only [List.mem_cons, List.not_mem_nil, or_false] at mem
    rcases mem with rfl | rfl <;> simp <;> omega
  next =>
    split at mem
    next =>
      simp only [List.mem_cons, List.not_mem_nil, or_false] at mem
      rcases mem with rfl | rfl | rfl <;> simp <;> omega
    next =>
      simp only [List.mem_cons, List.not_mem_nil, or_false] at mem
      rcases mem with rfl | rfl | rfl | rfl <;> simp <;> omega

/-- A byte below 128 is the whole of the character that has it. -/
theorem eq_of_mem_utf8EncodeChar {c : Char} {b : UInt8} (mem : b ∈ String.utf8EncodeChar c) (narrow : b.toNat < 128) :
    c.toNat = b.toNat := by
  rcases Nat.lt_or_ge c.toNat 128 with ascii | wide
  · have size : c.val.toNat ≤ 0x7f := Nat.le_of_lt_succ ascii
    simp only [String.utf8EncodeChar, if_pos size, List.mem_singleton] at mem
    subst mem
    simp
    omega
  · exact absurd narrow (Nat.not_lt.2 (le_of_mem_utf8EncodeChar wide mem))

/-! ## Cutting at bytes -/

/-- A run cut at a place that is counted in bytes. There is no place within a character and behind the end. -/
def cutAt? (place : Nat) : List Char → Option (List Char × List Char)
  | [] => if place = 0 then some ([], []) else none
  | c :: cs =>
    if place = 0 then some ([], c :: cs)
    else if place < c.utf8Size then none
    else (cutAt? (place - c.utf8Size) cs).map fun (head, rest) ↦ (c :: head, rest)

/-- `cutAt?` can cut a run behind any of its characters. -/
theorem cutAt?_append (head rest : List Char) : cutAt? (encode head).length (head ++ rest) = some (head, rest) := by
  induction head with
  | nil => cases rest <;> rfl
  | cons c head ih =>
    have size : (encode (c :: head)).length = c.utf8Size + (encode head).length := by
      rw [encode_cons, List.length_append, String.length_utf8EncodeChar]
    have positive : 0 < c.utf8Size := c.utf8Size_pos
    rw [size, List.cons_append, cutAt?, if_neg (by omega), if_neg (by omega), Nat.add_sub_cancel_left, ih]
    rfl

/-- The piece of a run between two places that are counted in bytes. -/
def slice? (start stop : Nat) (cs : List Char) : Option (List Char) :=
  (cutAt? stop cs).bind fun (upTo, _) ↦ (cutAt? start upTo).map Prod.snd

/-- `slice?` between two places of a run is what stands there. -/
theorem slice?_append (lead piece rest : List Char) :
    slice? (encode lead).length (encode (lead ++ piece)).length (lead ++ piece ++ rest) = some piece := by
  have upTo := cutAt?_append (lead ++ piece) rest
  have from' := cutAt?_append lead piece
  simp only [slice?, upTo, from', Option.bind_some, Option.map_some]

end Utf8

namespace LinkedData

open Utf8

/-! ## The search -/

/-- The place of the byte that closes `depth` open braces, where the first byte has the place `place`. -/
def closingPlace? (depth place : Nat) : List UInt8 → Option Nat
  | [] => none
  | b :: bytes =>
    if b = 0x7b then closingPlace? (depth + 1) (place + 1) bytes
    else if b = 0x7d then
      if depth ≤ 1 then some place else closingPlace? (depth - 1) (place + 1) bytes
    else closingPlace? depth (place + 1) bytes

/-- The first block of the type `target` in a run, looked for among its bytes from `place` on. The search fails
where a block would begin or end within a character. -/
def scan? (target cs : List Char) (place : Nat) (bytes : List UInt8) : Option (Option (List Char)) :=
  match bytes with
  | [] => some none
  | b :: bytes =>
    if b = 0x7b then
      match closingPlace? 1 (place + 1) bytes with
      | none => some none
      | some stop =>
        match slice? place (stop + 1) cs with
        | none => none
        | some block =>
          if hasType target block then some (some block)
          else scan? target cs (stop + 1) (bytes.drop (stop - place))
    else scan? target cs (place + 1) bytes
termination_by bytes.length

/-- The first block of the type `target` in a string, looked for among its bytes by `scan?`. -/
def scanBlock? (target s : String) : Option (Option String) :=
  (scan? target.toList s.toList 0 (encode s.toList)).map (Option.map String.ofList)

/-! ## What it finds -/

/-- A character other than a brace has no byte that is one. -/
theorem ne_of_mem_utf8EncodeChar {c : Char} {b : UInt8} (mem : b ∈ String.utf8EncodeChar c) :
    (c ≠ '\x7b' → b ≠ 0x7b) ∧ (c ≠ '\x7d' → b ≠ 0x7d) := by
  constructor
  all_goals
    rintro other rfl
    exact other (Char.toNat_inj.1 (eq_of_mem_utf8EncodeChar mem (by decide)))

/-- `closingPlace?` passes over bytes that are no braces. -/
theorem closingPlace?_append {passed : List UInt8} (other : ∀ b ∈ passed, b ≠ 0x7b ∧ b ≠ 0x7d) (depth place : Nat)
    (bytes : List UInt8) :
    closingPlace? depth place (passed ++ bytes) = closingPlace? depth (place + passed.length) bytes := by
  induction passed generalizing place with
  | nil => rfl
  | cons b passed ih =>
    obtain ⟨⟨opens, closes⟩, others⟩ := List.forall_mem_cons.1 other
    rw [List.cons_append, closingPlace?, if_neg opens, if_neg closes, ih others, List.length_cons]
    congr 1
    omega

/-- `closingPlace?` finds the place where `closing?` cuts, counted in bytes. -/
theorem closingPlace?_encode (depth place : Nat) (cs : List Char) : closingPlace? depth place (encode cs) =
    (closing? depth cs).map fun found ↦ place + (encode found.1).length - 1 := by
  induction cs generalizing depth place with
  | nil => rfl
  | cons c cs ih =>
    -- Where the block goes on behind a character, its end is found behind the bytes of this character.
    have goesOn {depth place' : Nat} (behind : place' = place + (String.utf8EncodeChar c).length) :
        closingPlace? depth place' (encode cs) =
          ((closing? depth cs).map fun (block, rest) ↦ (c :: block, rest)).map
            fun found ↦ place + (encode found.1).length - 1 := by
      rw [ih, Option.map_map]
      refine congrArg (Option.map · _) (funext fun found ↦ ?_)
      simp only [Function.comp_apply, encode_cons, List.length_append, behind]
      congr 1
      omega
    rw [encode_cons, closing?]
    split
    next opens =>
      subst opens
      have byte : String.utf8EncodeChar '\x7b' = [0x7b] := by decide
      rw [byte, List.singleton_append, closingPlace?, if_pos rfl]
      exact goesOn rfl
    next opens =>
      split
      next closes =>
        subst closes
        have byte : String.utf8EncodeChar '\x7d' = [0x7d] := by decide
        rw [byte, List.singleton_append, closingPlace?, if_neg (by decide), if_pos rfl]
        split
        next => rfl
        next => exact goesOn rfl
      next closes =>
        have other : ∀ b ∈ String.utf8EncodeChar c, b ≠ 0x7b ∧ b ≠ 0x7d := fun b mem ↦
          ⟨(ne_of_mem_utf8EncodeChar mem).1 opens, (ne_of_mem_utf8EncodeChar mem).2 closes⟩
        rw [closingPlace?_append other]
        exact goesOn rfl

/-- `scan?` passes over bytes that are no opening braces. -/
theorem scan?_append {passed : List UInt8} (other : ∀ b ∈ passed, b ≠ 0x7b) (target cs : List Char) (place : Nat)
    (bytes : List UInt8) :
    scan? target cs place (passed ++ bytes) = scan? target cs (place + passed.length) bytes := by
  induction passed generalizing place with
  | nil => rfl
  | cons b passed ih =>
    obtain ⟨opens, others⟩ := List.forall_mem_cons.1 other
    rw [List.cons_append, scan?, if_neg opens, ih others, List.length_cons]
    congr 1
    omega

theorem encode_open (cs : List Char) : encode ('\x7b' :: cs) = 0x7b :: encode cs := by
  have byte : String.utf8EncodeChar '\x7b' = [0x7b] := by decide
  rw [encode_cons, byte, List.singleton_append]

/-- Where `closing?` finds the end of a block, `scan?` takes the whole block, and goes on behind it if it is of
another type. -/
theorem scan?_block (target lead : List Char) {cs inner rest : List Char} (found : closing? 1 cs = some (inner, rest)) :
    scan? target (lead ++ '\x7b' :: cs) (encode lead).length (encode ('\x7b' :: cs)) =
      if hasType target ('\x7b' :: inner) then some (some ('\x7b' :: inner))
      else scan? target (lead ++ '\x7b' :: cs) (encode (lead ++ '\x7b' :: inner)).length (encode rest) := by
  have row : inner ++ rest = cs := append_of_closing? found
  have stop : (encode lead).length + 1 + (encode inner).length - 1 + 1 = (encode (lead ++ '\x7b' :: inner)).length := by
    rw [encode_append, encode_open, List.length_append, List.length_cons]
    omega
  have width : (encode lead).length + 1 + (encode inner).length - 1 - (encode lead).length = (encode inner).length := by
    omega
  have piece := slice?_append lead ('\x7b' :: inner) rest
  rw [List.append_assoc, List.cons_append, row] at piece
  have behind : (encode cs).drop (encode inner).length = encode rest := by
    rw [← row, encode_append, List.drop_left]
  rw [encode_open, scan?, if_pos rfl, closingPlace?_encode, found]
  simp only [Option.map_some, stop, piece, width, behind]

/-- `scan?` does not fail, and finds what `blockOf?` finds. -/
theorem scan?_encode (target lead cs : List Char) :
    scan? target (lead ++ cs) (encode lead).length (encode cs) = some (blockOf? target cs) := by
  fun_induction blockOf? target cs generalizing lead with
  | case1 =>
    have nothing : encode [] = [] := rfl
    rw [nothing, scan?]
  | case2 cs none =>
    rw [encode_open, scan?, if_pos rfl, closingPlace?_encode, none]
    rfl
  | case3 cs inner rest found has => rw [scan?_block target lead found, if_pos has]
  | case4 cs inner rest found hasNot ih =>
    have next := ih (lead ++ '\x7b' :: inner)
    rw [List.append_assoc, List.cons_append, append_of_closing? found] at next
    rw [scan?_block target lead found, if_neg hasNot, next]
  | case5 c cs other ih =>
    have next := ih (lead ++ [c])
    have place : (encode (lead ++ [c])).length = (encode lead).length + (String.utf8EncodeChar c).length := by
      rw [encode_append, List.length_append, encode_cons, List.length_append]
      rfl
    rw [place, List.append_assoc, List.singleton_append] at next
    rw [encode_cons, scan?_append fun b mem ↦ (ne_of_mem_utf8EncodeChar mem).1 other, next]

/-- `scanBlock?` does not fail, and finds what `block?` finds. -/
theorem scanBlock?_eq (target s : String) : scanBlock? target s = some (block? target s) := by
  have found := scan?_encode target.toList [] s.toList
  rw [scanBlock?, block?]
  exact congrArg (Option.map _) found

end LinkedData

end Gazette
