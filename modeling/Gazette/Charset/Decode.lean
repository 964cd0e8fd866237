import Gazette.Charset.Basic
import Gazette.Charset.Gb18030
import Gazette.Charset.Japanese

/-!
# Decoding bytes

The text of bytes in a charset: `Charset.decode`. A mark at the front overrules the charset. Nothing fails:
U+FFFD stands for what is malformed.
-/

namespace Gazette.Charset

/-- The units of bytes in UTF-16, and whether a byte is left over. -/
def units (highFirst : Bool) : List UInt8 → List Nat × Bool
  | [] => ([], false)
  | [_] => ([], true)
  | a :: b :: rest =>
    let (more, odd) := units highFirst rest
    ((if highFirst then a.toNat * 256 + b.toNat else b.toNat * 256 + a.toNat) :: more, odd)

/-- The characters of units of UTF-16. A unit or a byte that is left over at the end makes no character of
its own. -/
def decodeUnits (odd : Bool) : List Nat → List Char
  | [] => if odd then [malformed] else []
  | u :: rest =>
    if 0xD800 ≤ u ∧ u < 0xDC00 then
      match rest with
      | [] => [malformed]
      | v :: rest' =>
        if 0xDC00 ≤ v ∧ v < 0xE000 then
          Char.ofNat (0x10000 + (u - 0xD800) * 0x400 + (v - 0xDC00)) :: decodeUnits odd rest'
        else malformed :: decodeUnits odd (v :: rest')
    else if 0xDC00 ≤ u ∧ u < 0xE000 then malformed :: decodeUnits odd rest
    else Char.ofNat u :: decodeUnits odd rest
termination_by units => units.length

/-- The characters of bytes without a mark at the front. -/
def decodeBare (charset : Charset) (bytes : List UInt8) : List Char :=
  match charset with
  | utf8 => Utf8.decodeLossy bytes
  | utf16 highFirst => let (us, odd) := units highFirst bytes; decodeUnits odd us
  | oneByte upper => decodeOneByte upper bytes
  | userDefined => decodeUserDefined bytes
  | big5 => decodeBig5 bytes
  | eucKr => decodeEucKr bytes
  | eucJp => decodeEucJp bytes
  | shiftJis => decodeShiftJis bytes
  | iso2022Jp => decodeIso2022Jp bytes
  | gb18030 => decodeGb18030 bytes
  | unreadable => if bytes.isEmpty then [] else [malformed]

/-- The charset that a mark at the front names, and the bytes behind it. -/
def marked? : List UInt8 → Option (Charset × List UInt8)
  | 0xEF :: 0xBB :: 0xBF :: rest => some (utf8, rest)
  | 0xFE :: 0xFF :: rest => some (utf16 true, rest)
  | 0xFF :: 0xFE :: rest => some (utf16 false, rest)
  | _ => none

/-- The text of bytes: that of the `marked?` charset, else `decodeBare`. -/
def decode (charset : Charset) (bytes : List UInt8) : String :=
  match marked? bytes with
  | some (charset, rest) => String.ofList (charset.decodeBare rest)
  | none => String.ofList (charset.decodeBare bytes)

end Gazette.Charset
