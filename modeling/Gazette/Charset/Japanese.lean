import Gazette.Charset.Index.Kanji
import Gazette.Charset.Index.RareKanji
import Gazette.Charset.Pairs

/-!
# Japanese charsets

Three ways to write the characters of JIS X 0208: shifted so that half-width Katakana have a byte of their own
(`decodeShiftJis`), with the high bit set (`decodeEucJp`), and in seven bits with escape sequences
(`decodeIso2022Jp`).
-/

namespace Gazette.Charset

/-- The half-width Katakana whose number, counted from that of the full stop, is `n`. -/
def halfWidth (n : Nat) : Char := Char.ofNat (0xFF61 + n)

/-! ## Shift_JIS -/

/-- A byte by itself in Shift_JIS. -/
def shiftJisOne? (b : UInt8) : Option Char :=
  if b ≤ 0x80 then some (asciiChar b)
  else if isIn 0xA1 0xDF b then some (halfWidth (b.toNat - 0xA1))
  else none

/-- What a pair stands for in Shift_JIS. Some rows are for private use. -/
def shiftJisPair (a b : UInt8) : Option (List Char) :=
  if isIn 0x40 0x7E b || isIn 0x80 0xFC b then
    let row := a.toNat - (if a < 0xA0 then 0x81 else 0xC1)
    let place := row * 188 + b.toNat - (if b < 0x7F then 0x40 else 0x41)
    if 8836 ≤ place ∧ place ≤ 10715 then some [Char.ofNat (0xE000 + (place - 8836))]
    else (Index.kanji.get? place).map fun c ↦ [c]
  else none

/-- The characters of bytes in Shift_JIS. -/
def decodeShiftJis : List UInt8 → List Char :=
  decodePairs shiftJisOne? (fun b ↦ isIn 0x81 0x9F b || isIn 0xE0 0xFC b) shiftJisPair

/-! ## EUC-JP -/

/-- The place of a pair whose bytes have the high bit set. -/
def euc? (a b : UInt8) : Option Nat :=
  if isIn 0xA1 0xFE a && isIn 0xA1 0xFE b then
    some ((a.toNat - 0xA1) * 94 + (b.toNat - 0xA1))
  else none

/-- What a pair stands for in EUC-JP. -/
def eucJpPair (a b : UInt8) : Option (List Char) :=
  if a = 0x8E then
    if isIn 0xA1 0xDF b then some [halfWidth (b.toNat - 0xA1)] else none
  else ((euc? a b).bind Index.kanji.get?).map fun c ↦ [c]

/-- The characters of bytes in EUC-JP. A byte of its own begins a rare character. -/
def decodeEucJp : List UInt8 → List Char
  | [] => []
  | a :: rest =>
    if a < 0x80 then asciiChar a :: decodeEucJp rest
    else if a = 0x8E || a = 0x8F || isIn 0xA1 0xFE a then
      match rest with
      | [] => [malformed]
      | b :: rest =>
        if a = 0x8F && isIn 0xA1 0xFE b then
          match rest with
          | [] => [malformed]
          | c :: rest =>
            match (euc? b c).bind Index.rareKanji.get? with
            | some k => k :: decodeEucJp rest
            | none =>
              if c < 0x80 then malformed :: asciiChar c :: decodeEucJp rest
              else malformed :: decodeEucJp rest
        else
          match eucJpPair a b with
          | some cs => cs ++ decodeEucJp rest
          | none =>
            if b < 0x80 then malformed :: asciiChar b :: decodeEucJp rest
            else malformed :: decodeEucJp rest
    else malformed :: decodeEucJp rest

/-! ## ISO-2022-JP -/

/-- What the bytes stand for in ISO-2022-JP. -/
inductive JisMode
  /-- ASCII. -/
  | ascii
  /-- ASCII with a yen sign and an overline. -/
  | roman
  /-- Half-width Katakana. -/
  | katakana
  /-- Pairs. -/
  | kanji
deriving DecidableEq, Repr

/-- The mode that an escape sequence sets, given its two bytes behind the escape. -/
def jisMode? (a b : UInt8) : Option JisMode :=
  if a = 0x28 ∧ b = 0x42 then some .ascii
  else if a = 0x28 ∧ b = 0x4A then some .roman
  else if a = 0x28 ∧ b = 0x49 then some .katakana
  else if a = 0x24 ∧ (b = 0x40 ∨ b = 0x42) then some .kanji
  else none

/-- What bytes in seven bits stand for, `none` where they are malformed. `escaped` says that an escape
sequence stands in front; two of them in a row are malformed. -/
def readIso2022Jp (mode : JisMode) (escaped : Bool) : List UInt8 → List (Option Char)
  | [] => []
  | a :: rest =>
    if a = 0x1B then
      match rest with
      | x :: y :: behind =>
        match jisMode? x y with
        | some next => (if escaped then [none] else []) ++ readIso2022Jp next true behind
        | none => none :: readIso2022Jp mode false (x :: y :: behind)
      | behind => none :: readIso2022Jp mode false behind
    else
      match mode with
      | .ascii =>
        (if a < 0x80 && a != 0x0E && a != 0x0F then some (asciiChar a) else none) ::
          readIso2022Jp mode false rest
      | .roman =>
        (if a = 0x5C then some '\u00a5'
          else if a = 0x7E then some '\u203e'
          else if a < 0x80 && a != 0x0E && a != 0x0F then some (asciiChar a)
          else none) :: readIso2022Jp mode false rest
      | .katakana =>
        (if isIn 0x21 0x5F a then some (halfWidth (a.toNat - 0x21)) else none) ::
          readIso2022Jp mode false rest
      | .kanji =>
        if isIn 0x21 0x7E a then
          match rest with
          | [] => [none]
          | b :: behind =>
            if b = 0x1B then none :: readIso2022Jp mode false (b :: behind)
            else if isIn 0x21 0x7E b then
              Index.kanji.get? ((a.toNat - 0x21) * 94 + (b.toNat - 0x21)) ::
                readIso2022Jp mode false behind
            else none :: readIso2022Jp mode false behind
        else none :: readIso2022Jp mode false rest

/-- The characters of bytes in ISO-2022-JP. -/
def decodeIso2022Jp (bytes : List UInt8) : List Char :=
  (readIso2022Jp .ascii false bytes).map fun c ↦ c.getD malformed

end Gazette.Charset
