import Gazette.Charset.Decode

/-!
# Guessing charsets

Bytes without a label are weighed in several charsets. In each of them, what is common in its language
counts for it, what is rare counts little, and what hardly occurs counts against it; bytes that are
malformed in a charset rule it out. The charset with the greatest weight above zero is taken.
-/

namespace Gazette.Charset

/-- What stands in front of a place in the text. -/
inductive Neighbour
  /-- A letter of ASCII. -/
  | letter
  /-- A wide character. -/
  | wide
  /-- Anything else. -/
  | other
deriving DecidableEq, Repr

/-- The weight of a common wide character. -/
def commonWeight : Int := 41

/-- The weight of a rarer one. -/
def rareWeight : Int := 20

/-- The weight of one that the charset has, but the language hardly needs. -/
def oddWeight : Int := 5

/-- The weight of one for private use. -/
def privateWeight : Int := -410

/-- A letter of ASCII. -/
def isAsciiLetter (b : UInt8) : Bool := isIn 0x41 0x5A b || isIn 0x61 0x7A b

/-- The weight of bytes in a charset of pairs. `one` gives the weight of a byte that is neither ASCII nor
the first one of a pair, and `two` that of a pair; `none` rules the charset out. A letter next to a wide
character counts against it. -/
def pairsWeight? (one : UInt8 → Option Int) (isLead : UInt8 → Bool)
    (two : UInt8 → UInt8 → Option Int) : Neighbour → List UInt8 → Option Int
  | _, [] => some 0
  | before, a :: rest =>
    if a < 0x80 then
      if isAsciiLetter a then
        (pairsWeight? one isLead two .letter rest).map
          ((if before = .wide then -commonWeight else 0) + ·)
      else pairsWeight? one isLead two .other rest
    else if isLead a then
      match rest with
      | [] => none
      | b :: rest =>
        match two a b with
        | none => none
        | some w =>
          (pairsWeight? one isLead two .wide rest).map
            (w + (if before = .letter then -commonWeight else 0) + ·)
    else
      match one a with
      | none => none
      | some w => (pairsWeight? one isLead two .other rest).map (w + ·)

/-- The weight of a pair that stands for something. -/
def weighed (known : Bool) (weight : Int) : Option Int := if known then some weight else none

/-- The weight of a pair in Big5. -/
def big5Weight (a b : UInt8) : Option Int :=
  weighed (big5Pair a b).isSome
    (if isIn 0xA4 0xC6 a then commonWeight
      else if isIn 0xA1 0xA3 a || isIn 0xC9 0xF9 a then rareWeight
      else oddWeight)

/-- The weight of a pair in GB 18030. -/
def gbWeight (a b : UInt8) : Option Int :=
  weighed (gbPair? a b).isSome
    (if (gbPrivate? a b).isSome then privateWeight
      else if b < 0xA1 then oddWeight
      else if isIn 0xB0 0xD7 a then commonWeight
      else if isIn 0xD8 0xF7 a || isIn 0xA1 0xA3 a then rareWeight
      else oddWeight)

/-- The weight of a pair in EUC-KR. -/
def eucKrWeight (a b : UInt8) : Option Int :=
  weighed (eucKrPair a b).isSome
    (if b < 0xA1 then oddWeight
      else if isIn 0xB0 0xC8 a then commonWeight + 1
      else if isIn 0xCA 0xFD a then rareWeight
      else oddWeight)

/-- The weight of a pair in EUC-JP. -/
def eucJpWeight (a b : UInt8) : Option Int :=
  weighed (eucJpPair a b).isSome
    (if isIn 0xA4 0xA5 a then commonWeight + 13
      else if isIn 0xB0 0xCF a then commonWeight
      else if isIn 0xD0 0xF4 a || a == 0xA1 then rareWeight
      else oddWeight)

/-- The weight of a pair in Shift_JIS. -/
def shiftJisWeight (a b : UInt8) : Option Int :=
  weighed (shiftJisPair a b).isSome
    (if isIn 0x88 0x97 a then commonWeight
      else if isIn 0x81 0x83 a || isIn 0x98 0x9F a || isIn 0xE0 0xEA a then rareWeight
      else if isIn 0x84 0x87 a then oddWeight
      else privateWeight)

/-- The letters of a charset of one byte for Cyrillic: whether a byte is one, and if so a small one. -/
def cyrillicLetter? (b : UInt8) : Option Bool :=
  if isIn 0xE0 0xFF b || b == 0xB8 || b == 0xB3 || b == 0xBF || b == 0xBA then some true
  else if isIn 0xC0 0xDF b || b == 0xA8 || b == 0xB2 || b == 0xAF || b == 0xAA then some false
  else none

/-- The weight of two bytes in a row in windows-1251. -/
def cyrillicStep (a b : UInt8) : Int :=
  match cyrillicLetter? a, cyrillicLetter? b with
  | some _, some true => 50
  | some true, some false => -100
  | some false, some false => -40
  | some _, none => if isAsciiLetter b then -50 else if 0x80 ≤ b then -220 else 0
  | none, some _ => if isAsciiLetter a then -50 else if 0x80 ≤ a then -220 else 0
  | none, none => 0

/-- The weight of bytes in windows-1251. -/
def cyrillicWeight : List UInt8 → Int
  | a :: b :: rest => cyrillicStep a b + cyrillicWeight (b :: rest)
  | _ => 0

/-- The charsets that are weighed, with their weights. -/
def weights (bytes : List UInt8) : List (Charset × Option Int) :=
  let double (b : UInt8) : Bool := isIn 0x81 0xFE b
  [(gb18030, pairsWeight? (fun b ↦ weighed (b == 0x80) 0) double gbWeight .other bytes),
    (eucJp, pairsWeight? (fun _ ↦ none) (fun b ↦ b == 0x8E || isIn 0xA1 0xFE b) eucJpWeight .other
      bytes),
    (eucKr, pairsWeight? (fun _ ↦ none) double eucKrWeight .other bytes),
    (shiftJis, pairsWeight? (fun b ↦ weighed (isIn 0xA1 0xDF b) 1)
      (fun b ↦ isIn 0x81 0x9F b || isIn 0xE0 0xFC b) shiftJisWeight .other bytes),
    (big5, pairsWeight? (fun _ ↦ none) double big5Weight .other bytes),
    (oneByte Upper.windows1251, some (cyrillicWeight bytes))]

/-- The charset that bytes are likely in: the one of the greatest of the `weights`. What can be UTF-8 is that,
unless it is ASCII with escape sequences of ISO-2022-JP; what no charset speaks for is windows-1252. -/
def detect (bytes : List UInt8) : Charset :=
  if bytes.all (· < 0x80) && bytes.contains 0x1B &&
      (readIso2022Jp .ascii false bytes).all Option.isSome then iso2022Jp
  else if (Utf8.decode? bytes).isSome then utf8
  else
    ((weights bytes).foldl (fun best (charset, weight) ↦
      match weight with
      | some w => if best.2 < w then (charset, w) else best
      | none => best) (oneByte Upper.windows1252, (0 : Int))).1

end Gazette.Charset
