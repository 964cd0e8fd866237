import Gazette.Bytes.Utf8
import Gazette.Charset.Index.Big5
import Gazette.Charset.Index.Hangul

/-!
# Charsets of one or two bytes

Bytes below 0x80 are ASCII in all of these. Where two bytes make no character, `decodePairs` reads the second
one once more if it is ASCII.
-/

namespace Gazette.Charset

/-- What stands for bytes that make no character. -/
abbrev malformed : Char := Utf8.replacement

/-- The character of a byte of ASCII. -/
def asciiChar (b : UInt8) : Char := Char.ofNat b.toNat

/-- The characters of a charset of one byte with the given upper half. -/
def decodeOneByte (upper : String) (bytes : List UInt8) : List Char :=
  let table := upper.toList.toArray
  bytes.map fun b ↦
    if b < 0x80 then asciiChar b else table.getD (b.toNat - 0x80) malformed

/-- The characters where bytes from 0x80 on are private. -/
def decodeUserDefined (bytes : List UInt8) : List Char :=
  bytes.map fun b ↦ if b < 0x80 then asciiChar b else Char.ofNat (0xF700 + b.toNat)

/-- The characters of a charset of one or two bytes. `one` gives the character of a byte by itself, `isLead`
says whether a byte begins a pair, and `two` gives what a pair stands for. -/
def decodePairs (one : UInt8 → Option Char) (isLead : UInt8 → Bool)
    (two : UInt8 → UInt8 → Option (List Char)) : List UInt8 → List Char
  | [] => []
  | a :: rest =>
    match one a with
    | some c => c :: decodePairs one isLead two rest
    | none =>
      if isLead a then
        match rest with
        | [] => [malformed]
        | b :: rest =>
          match two a b with
          | some cs => cs ++ decodePairs one isLead two rest
          | none =>
            if b < 0x80 then malformed :: asciiChar b :: decodePairs one isLead two rest
            else malformed :: decodePairs one isLead two rest
      else malformed :: decodePairs one isLead two rest

/-- A byte of ASCII by itself. -/
def ascii? (b : UInt8) : Option Char := if b < 0x80 then some (asciiChar b) else none

/-- Whether a byte lies between two others. -/
def isIn (first last b : UInt8) : Bool := first ≤ b && b ≤ last

/-- The place of a pair in Big5. -/
def big5Place? (a b : UInt8) : Option Nat :=
  if isIn 0x40 0x7E b then some ((a.toNat - 0x81) * 157 + b.toNat - 0x40)
  else if isIn 0xA1 0xFE b then some ((a.toNat - 0x81) * 157 + b.toNat - 0x62)
  else none

/-- What a pair stands for in Big5. Four pairs stand for a letter with a mark on it. -/
def big5Pair (a b : UInt8) : Option (List Char) := do
  match ← big5Place? a b with
  | 1133 => return ['\u00ca', '\u0304']
  | 1135 => return ['\u00ca', '\u030c']
  | 1164 => return ['\u00ea', '\u0304']
  | 1166 => return ['\u00ea', '\u030c']
  | place => return [← Index.big5.get? place]

/-- The characters of bytes in Big5, by `big5Pair`. -/
def decodeBig5 : List UInt8 → List Char := decodePairs ascii? (isIn 0x81 0xFE) big5Pair

/-- What a pair stands for in EUC-KR. -/
def eucKrPair (a b : UInt8) : Option (List Char) :=
  if isIn 0x41 0xFE b then
    (Index.hangul.get? ((a.toNat - 0x81) * 190 + b.toNat - 0x41)).map fun c ↦ [c]
  else none

/-- The characters of bytes in EUC-KR, by `eucKrPair`. -/
def decodeEucKr : List UInt8 → List Char := decodePairs ascii? (isIn 0x81 0xFE) eucKrPair

end Gazette.Charset
