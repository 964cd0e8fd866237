/-!
# UTF-8

Text as bytes: `Utf8.encode`. The lenient reader `Utf8.decodeLossy` never fails: the longest piece that could
have begun a character, but did not go on as one, becomes one replacement character.
-/

namespace Gazette.Utf8

/-- The bytes of a run of characters. -/
def encode (cs : List Char) : List UInt8 := cs.flatMap String.utf8EncodeChar

/-- The number of bytes of a run of characters. -/
def size (cs : List Char) : Nat := cs.foldl (fun n c ↦ n + c.utf8Size) 0

/-- What stands for malformed bytes. -/
def replacement : Char := '\ufffd'

def low (b : UInt8) : Nat := b.toNat % 64

/-- Whether a byte continues a character. -/
def continues (b : UInt8) : Bool := 0x80 ≤ b && b ≤ 0xBF

/-- Whether `b` may follow the lead byte `a` of a character of three bytes. -/
def second3 (a b : UInt8) : Bool :=
  (if a = 0xE0 then 0xA0 else 0x80) ≤ b && b ≤ (if a = 0xED then 0x9F else 0xBF)

/-- Whether `b` may follow the lead byte `a` of a character of four bytes. -/
def second4 (a b : UInt8) : Bool :=
  (if a = 0xF0 then 0x90 else 0x80) ≤ b && b ≤ (if a = 0xF4 then 0x8F else 0xBF)

/-- The character that begins with the byte `a`, or nothing where the bytes are malformed, and the
bytes behind it. -/
def next (a : UInt8) (rest : List UInt8) : Option Char × List UInt8 :=
  if a < 0x80 then (some (Char.ofNat a.toNat), rest)
  else if 0xC2 ≤ a && a ≤ 0xDF then
    match rest with
    | b :: rest' =>
      if continues b then (some (Char.ofNat (a.toNat % 32 * 64 + low b)), rest') else (none, rest)
    | [] => (none, [])
  else if 0xE0 ≤ a && a ≤ 0xEF then
    match rest with
    | b :: rest' =>
      if second3 a b then
        match rest' with
        | c :: rest'' =>
          if continues c then
            (some (Char.ofNat (a.toNat % 16 * 4096 + low b * 64 + low c)), rest'')
          else (none, rest')
        | [] => (none, [])
      else (none, rest)
    | [] => (none, [])
  else if 0xF0 ≤ a && a ≤ 0xF4 then
    match rest with
    | b :: rest' =>
      if second4 a b then
        match rest' with
        | c :: rest'' =>
          if continues c then
            match rest'' with
            | d :: rest''' =>
              if continues d then
                (some (Char.ofNat (a.toNat % 8 * 262144 + low b * 4096 + low c * 64 + low d)),
                  rest''')
              else (none, rest'')
            | [] => (none, [])
          else (none, rest')
        | [] => (none, [])
      else (none, rest)
    | [] => (none, [])
  else (none, rest)

theorem length_next_le (a : UInt8) (rest : List UInt8) : (next a rest).2.length ≤ rest.length := by
  unfold next
  repeat' split
  all_goals simp only [List.length_cons, List.length_nil]
  all_goals omega

/-- The characters of bytes by `next`, malformed pieces as `replacement`. -/
def decodeLossy : List UInt8 → List Char
  | [] => []
  | a :: rest =>
    let step := next a rest
    step.1.getD replacement :: decodeLossy step.2
termination_by bytes => bytes.length
decreasing_by
  have := length_next_le a rest
  simp only [List.length_cons]
  omega

/-- The characters of bytes by `next`, if no piece is malformed. -/
def decode? : List UInt8 → Option (List Char)
  | [] => some []
  | a :: rest =>
    let step := next a rest
    match step.1 with
    | some c => (decode? step.2).map (c :: ·)
    | none => none
termination_by bytes => bytes.length
decreasing_by
  have := length_next_le a rest
  simp only [List.length_cons]
  omega

end Gazette.Utf8
