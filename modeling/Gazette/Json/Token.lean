import Gazette.Json.Fault
import Gazette.Json.Value

/-!
# The smallest parts of a JSON text

Readers take what stands in front of the characters left to read and return its value with the characters behind
it: `Json.Reads`. Here are those for words (`word`), numbers (`numeral`) and strings (`stringRest`), and the
punctuation between the items of lists (`nextItem`) and the members of objects (`nextKey`, `colon`).
-/

namespace Gazette.Json

/-- A step of reading: its value and the characters left. -/
abbrev Reads (α : Type) := List Char → Except Fault (α × List Char)

/-- The white space between the parts of a text. -/
def isSpace (c : Char) : Bool := c == ' ' || c == '\n' || c == '\t' || c == '\r'

/-- The characters behind white space. -/
def skipSpace (cs : List Char) : List Char := cs.dropWhile isSpace

/-- The given characters, one by one. -/
def word : List Char → Reads Unit
  | [], cs => .ok ((), cs)
  | _ :: _, [] => .error (.before .endInValue [])
  | a :: more, c :: rest =>
    if a = c then word more rest else .error (.atFirst .wordExpected (c :: rest))

/-! ## Strings -/

/-- Four hexadecimal digits. -/
def hexUnit : Reads Nat := fun cs ↦
  match (cs.take 4).mapM Number.digitValue?, (Utf8.encode (cs.take 4)).length with
  | some [a, b, c, d], _ => .ok (a * 4096 + b * 256 + c * 16 + d, cs.drop 4)
  | _, bytes =>
    .error (if bytes < 4 then .before .endInString [] else ⟨.badEscape, some ⟨cs, 4⟩⟩)

/-- The character of the second half of a surrogate pair, the first half being `high`. -/
def lowHalf (high : Nat) : Reads Char
  | '\\' :: 'u' :: rest => do
    let (low, rest) ← hexUnit rest
    if 0xDC00 ≤ low ∧ low ≤ 0xDFFF then
      return (Char.ofNat ((high - 0xD800) * 1024 + (low - 0xDC00) + 0x10000), rest)
    else throw (.before .loneSurrogate rest)
  | '\\' :: [] => .error (.before .endInString [])
  | '\\' :: rest => .error (.atFirst .halfPair rest)
  | [] => .error (.before .endInString [])
  | rest => .error (.atFirst .halfPair rest)

/-- The character of an escape behind its backslash. -/
def escape : Reads Char
  | [] => .error (.before .endInString [])
  | '"' :: rest => .ok ('"', rest)
  | '\\' :: rest => .ok ('\\', rest)
  | '/' :: rest => .ok ('/', rest)
  | 'b' :: rest => .ok ('\x08', rest)
  | 'f' :: rest => .ok ('\x0c', rest)
  | 'n' :: rest => .ok ('\n', rest)
  | 'r' :: rest => .ok ('\r', rest)
  | 't' :: rest => .ok ('\t', rest)
  | 'u' :: rest => do
    let (unit, rest) ← hexUnit rest
    if 0xDC00 ≤ unit ∧ unit ≤ 0xDFFF then throw (.before .loneSurrogate rest)
    else if 0xD800 ≤ unit ∧ unit ≤ 0xDBFF then lowHalf unit rest
    else return (Char.ofNat unit, rest)
  | rest => .error (.atFirst .badEscape rest)

/-- The characters of a string behind its opening quote, and the quote behind them. The fuel bounds
their number. -/
def stringBody : Nat → Reads (List Char)
  | 0, _ => .error (.before .endInString [])
  | _ + 1, [] => .error (.before .endInString [])
  | _ + 1, '"' :: rest => .ok ([], rest)
  | fuel + 1, '\\' :: rest => do
    let (c, rest) ← escape rest
    let (cs, rest) ← stringBody fuel rest
    return (c :: cs, rest)
  | fuel + 1, c :: rest =>
    if c.toNat < 0x20 then .error (.before .controlCharacter rest)
    else do
      let (cs, rest) ← stringBody fuel rest
      return (c :: cs, rest)

/-- A string behind its opening quote. -/
def stringRest : Reads String := fun cs ↦ do
  let (body, rest) ← stringBody (cs.length + 1) cs
  return (String.ofList body, rest)

/-! ## Numbers -/

/-- The digits in front. -/
def digitsOf (cs : List Char) : List Char := cs.takeWhile Char.isDigit

/-- Digits taken into a significand as long as it fits 64 bits: the significand and the digits that
are left. -/
def significand : Nat → List Char → Nat × List Char
  | n, [] => (n, [])
  | n, d :: ds =>
    let m := n * 10 + Number.valueIn 10 [d]
    if m < Nat.pow 2 64 then significand m ds else (n, d :: ds)

/-- `size * 10 ^ exponent`, rounded after each step: the significand first, then each product or
quotient by a power of ten up to `10 ^ 308`. -/
def scale : Nat → Number.Binary64 → Int → Option Number.Binary64
  | 0, _, _ => some .zero
  | fuel + 1, size, exponent =>
    if exponent.natAbs ≤ 308 then do
      let power ← Number.Binary64.ofNat (Nat.pow 10 exponent.natAbs)
      if 0 ≤ exponent then size.mul power else size.div power
    else if size.mantissa = 0 then some size
    else if 0 ≤ exponent then none
    else do
      let power ← Number.Binary64.ofNat (Nat.pow 10 308)
      scale fuel (← size.div power) (exponent + 308)

/-- The number `n * 10 ^ exponent`, or a fault if it is too large. -/
def scaled (negative : Bool) (n : Nat) (exponent : Int) : Reads Numeral := fun cs ↦
  match (Number.Binary64.ofNat n).bind (scale 4 · exponent) with
  | some size => .ok (.rounded negative size, cs)
  | none => .error (.before .numberTooLarge cs)

/-- The digits of an exponent, read one by one. Once their value passes 31 bits, the number is too
large or zero. -/
def exponentDigits (negative below : Bool) (n : Nat) (start : Int) : Nat → Reads Numeral
  | e, [] => scaled negative n (if below then start - e else start + e) []
  | e, c :: rest =>
    if c.isDigit then
      let e' := e * 10 + Number.valueIn 10 [c]
      if e' < Nat.pow 2 31 then exponentDigits negative below n start e' rest
      else if n ≠ 0 ∧ !below then .error (.before .numberTooLarge rest)
      else .ok (.rounded negative .zero, rest.dropWhile Char.isDigit)
    else scaled negative n (if below then start - e else start + e) (c :: rest)

/-- An exponent behind its `e`. -/
def exponentPart (negative : Bool) (n : Nat) (start : Int) (cs : List Char) :
    Except Fault (Numeral × List Char) :=
  let (below, digits) :=
    match cs with
    | '+' :: rest => (false, rest)
    | '-' :: rest => (true, rest)
    | rest => (false, rest)
  match digits with
  | [] => .error (.before .endInValue [])
  | c :: rest =>
    if c.isDigit then exponentDigits negative below n start (Number.valueIn 10 [c]) rest
    else .error (.atFirst .badNumber (c :: rest))

/-- An exponent, where an `e` stands. -/
def optionalExponent (negative : Bool) (n : Nat) (start : Int) : Reads Numeral
  | 'e' :: rest => exponentPart negative n start rest
  | 'E' :: rest => exponentPart negative n start rest
  | cs => scaled negative n start cs

/-- A fraction behind its point. Digits that the significand does not hold are skipped. -/
def fractionPart (negative : Bool) (n : Nat) (start : Int) : Reads Numeral := fun cs ↦
  let digits := digitsOf cs
  let rest := cs.drop digits.length
  let (m, left) := significand n digits
  let taken := digits.length - left.length
  if digits.isEmpty then
    .error (if cs.isEmpty then .before .endInValue cs else .atFirst .badNumber cs)
  else optionalExponent negative m (start - taken) rest

/-- What follows the whole part of a number: a fraction (`fractionPart`), an exponent (`exponentPart`), or
nothing. A whole number that 64 bits do not hold is rounded, and so is minus zero. -/
def numberTail (negative : Bool) (n skipped : Nat) : Reads Numeral
  | '.' :: rest => fractionPart negative n skipped rest
  | 'e' :: rest => exponentPart negative n skipped rest
  | 'E' :: rest => exponentPart negative n skipped rest
  | cs =>
    if skipped ≠ 0 ∨ negative ∧ (n = 0 ∨ Nat.pow 2 63 < n) then scaled negative n skipped cs
    else .ok (.whole (if negative then -n else n), cs)

/-- A number behind its sign: the whole part, and `numberTail`. -/
def numeral (negative : Bool) : Reads Numeral
  | [] => .error (.before .endInValue [])
  | c :: rest =>
    if c = '0' then
      match rest with
      | d :: _ =>
        if d.isDigit then .error (.atFirst .badNumber rest) else numberTail negative 0 0 rest
      | [] => numberTail negative 0 0 []
    else if c.isDigit then
      let digits := digitsOf (c :: rest)
      let (n, left) := significand 0 digits
      numberTail negative n left.length ((c :: rest).drop digits.length)
    else .error (.atFirst .badNumber (c :: rest))

/-! ## Punctuation -/

/-- Whether an item follows in a list, and the characters from there on. -/
def nextItem (first : Bool) (cs : List Char) : Except Fault (Bool × List Char) :=
  match skipSpace cs with
  | [] => .error (.before .endInList [])
  | ']' :: rest => .ok (false, ']' :: rest)
  | c :: rest =>
    if first then .ok (true, c :: rest)
    else if c = ',' then
      match skipSpace rest with
      | [] => .error (.before .endInValue [])
      | ']' :: rest => .error (.atFirst .trailingComma (']' :: rest))
      | rest => .ok (true, rest)
    else .error (.atFirst .listCommaOrEnd (c :: rest))

/-- The end of a list. -/
def closeList : Reads Unit := fun cs ↦
  match skipSpace cs with
  | [] => .error (.before .endInList [])
  | ']' :: rest => .ok ((), rest)
  | ',' :: rest =>
    match skipSpace rest with
    | ']' :: rest => .error (.atFirst .trailingComma (']' :: rest))
    | rest => .error (.atFirst .trailingCharacters rest)
  | rest => .error (.atFirst .trailingCharacters rest)

/-- The key of the next member of an object, if one follows. -/
def nextKey (first : Bool) (cs : List Char) : Except Fault (Option String × List Char) :=
  let key (rest : List Char) : Except Fault (Option String × List Char) := do
    let (k, rest) ← stringRest rest
    return (some k, rest)
  match skipSpace cs with
  | [] => .error (.before .endInObject [])
  | '\x7d' :: rest => .ok (none, '\x7d' :: rest)
  | c :: rest =>
    if first then
      if c = '"' then key rest else .error (.atFirst .keyExpected (c :: rest))
    else if c = ',' then
      match skipSpace rest with
      | [] => .error (.before .endInValue [])
      | '"' :: rest => key rest
      | '\x7d' :: rest => .error (.atFirst .trailingComma ('\x7d' :: rest))
      | rest => .error (.atFirst .keyExpected rest)
    else .error (.atFirst .objectCommaOrEnd (c :: rest))

/-- The colon between key and value. -/
def colon : Reads Unit := fun cs ↦
  match skipSpace cs with
  | [] => .error (.before .endInObject [])
  | ':' :: rest => .ok ((), rest)
  | rest => .error (.atFirst .colonExpected rest)

/-- The end of an object. -/
def closeObject : Reads Unit := fun cs ↦
  match skipSpace cs with
  | [] => .error (.before .endInObject [])
  | '\x7d' :: rest => .ok ((), rest)
  | ',' :: rest => .error (.atFirst .trailingComma (',' :: rest))
  | rest => .error (.atFirst .trailingCharacters rest)

end Gazette.Json
