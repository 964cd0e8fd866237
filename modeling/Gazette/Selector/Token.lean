import Gazette.Chars.Cut
import Gazette.Number.Digits

/-!
# The parts of a selector text

Names, strings, marks and brackets of a selector text: `Part`. Brackets hold the `parts` within them; what is
not closed ends with the text.
-/

namespace Gazette.Selector

/-- A part of a selector text. -/
inductive Part
  /-- A name. -/
  | ident (s : List Char)
  /-- A name behind `#`; with `isName` it could stand alone. -/
  | hash (s : List Char) (isName : Bool)
  /-- A string. -/
  | string (s : List Char)
  /-- A number, with the unit behind it. -/
  | number (s : List Char)
  /-- White space. -/
  | space
  /-- A single character. -/
  | mark (c : Char)
  /-- A comparison of two characters, by its first one. -/
  | compare (c : Char)
  /-- A name and what stands in the parentheses behind it, read and unread. -/
  | call (name : List Char) (arguments : List Part) (source : List Char)
  /-- What stands in square brackets. -/
  | square (parts : List Part)
  /-- Something that no selector holds. -/
  | bad
deriving Inhabited

namespace Part

def isSpace (c : Char) : Bool := c == ' ' || c == '\n' || c == '\t' || c == '\r' || c == '\x0c'

/-- Whether a character may begin a name. -/
def startsName (c : Char) : Bool := c.isAlpha || c == '_' || 0x80 ≤ c.toNat || c.toNat == 0

/-- Whether a character may stand in a name. -/
def inName (c : Char) : Bool := startsName c || c.isDigit || c == '-'

/-- The character of an escape behind its backslash, and what follows it. -/
def escape (cs : List Char) : Char × List Char :=
  match cs with
  | [] => ('\ufffd', [])
  | c :: rest =>
    let digits := (cs.take 6).takeWhile Number.isHexDigit
    if digits.isEmpty then (c, rest)
    else
      let n := Number.valueIn 16 digits
      let behind := cs.drop digits.length
      let behind :=
        match behind with
        | '\r' :: '\n' :: more => more
        | c :: more => if isSpace c then more else c :: more
        | [] => []
      (if n = 0 ∨ 0x10FFFF < n ∨ (0xD800 ≤ n ∧ n ≤ 0xDFFF) then '\ufffd' else Char.ofNat n, behind)

/-- Whether an escape stands in front. -/
def isEscape : List Char → Bool
  | '\\' :: '\n' :: _ => false
  | '\\' :: '\r' :: _ => false
  | '\\' :: '\x0c' :: _ => false
  | '\\' :: _ => true
  | _ => false

def isName : List Char → Bool
  | '-' :: '-' :: _ => true
  | '-' :: rest => rest.head?.any startsName || isEscape rest
  | cs => cs.head?.any startsName || isEscape cs

/-- The characters of a name, and what follows it. The fuel bounds their number. -/
def nameRest : Nat → List Char → List Char × List Char
  | 0, cs => ([], cs)
  | _, [] => ([], [])
  | fuel + 1, c :: rest =>
    if inName c then
      let (name, rest) := nameRest fuel rest
      ((if c.toNat = 0 then '\ufffd' else c) :: name, rest)
    else if isEscape (c :: rest) then
      let (d, rest) := escape rest
      let (name, rest) := nameRest fuel rest
      (d :: name, rest)
    else ([], c :: rest)

def nameOf (cs : List Char) : List Char × List Char := nameRest cs.length cs

/-- The characters of a string behind its quote, and what follows it; nothing if a line ends in it. The
fuel bounds their number. -/
def stringRest? (q : Char) : Nat → List Char → Option (List Char × List Char)
  | 0, cs => some ([], cs)
  | _, [] => some ([], [])
  | fuel + 1, c :: rest =>
    if c = q then some ([], rest)
    else if c = '\n' ∨ c = '\r' ∨ c = '\x0c' then none
    else if c = '\\' then
      match rest with
      | [] => some ([], [])
      | '\r' :: '\n' :: rest => stringRest? q fuel rest
      | d :: more =>
        if d = '\n' ∨ d = '\r' ∨ d = '\x0c' then stringRest? q fuel more
        else
          let (e, rest) := escape rest
          (stringRest? q fuel rest).map fun (body, rest) ↦ (e :: body, rest)
    else
      (stringRest? q fuel rest).map fun (body, rest) ↦
        ((if c.toNat = 0 then '\ufffd' else c) :: body, rest)

/-- Whether a number stands in front. -/
def isNumber : List Char → Bool
  | '+' :: '.' :: d :: _ => d.isDigit
  | '-' :: '.' :: d :: _ => d.isDigit
  | '+' :: d :: _ => d.isDigit
  | '-' :: d :: _ => d.isDigit
  | '.' :: d :: _ => d.isDigit
  | d :: _ => d.isDigit
  | [] => false

/-- A number with its unit, and what follows it. -/
def numberOf (cs : List Char) : List Char × List Char :=
  let sign := (cs.take 1).filter fun c ↦ c == '+' || c == '-'
  let rest := cs.drop sign.length
  let body := rest.takeWhile fun c ↦ c.isDigit || c == '.'
  let rest := rest.drop body.length
  if isName rest then
    let (unit, rest) := nameOf rest
    (sign ++ body ++ unit, rest)
  else (sign ++ body, rest)

/-- What follows a comment behind its opening characters. -/
def behindComment : List Char → List Char
  | [] => []
  | '*' :: '/' :: rest => rest
  | _ :: rest => behindComment rest

/-- The parts of a text up to a closing bracket, and what follows that. The fuel bounds their number. -/
def partsUntil (close : Option Char) : Nat → List Char → List Part × List Char
  | 0, cs => ([.bad], cs)
  | _, [] => ([], [])
  | fuel + 1, c :: rest =>
    let more (part : Part) (rest : List Char) : List Part × List Char :=
      let (parts, rest) := partsUntil close fuel rest
      (part :: parts, rest)
    if some c = close then ([], rest)
    else if c = '/' && rest.head? = some '*' then partsUntil close fuel (behindComment (rest.drop 1))
    else if isSpace c then more .space (rest.dropWhile isSpace)
    else if c = '"' || c = '\'' then
      match stringRest? c rest.length rest with
      | some (body, rest) => more (.string body) rest
      | none => ([.bad], [])
    else if c = '#' then
      if rest.head?.any inName || isEscape rest then
        let (name, behind) := nameOf rest
        more (.hash name (isName rest)) behind
      else more (.mark '#') rest
    else if isNumber (c :: rest) then
      let (n, rest) := numberOf (c :: rest)
      more (.number n) rest
    else if isName (c :: rest) then
      let (name, rest) := nameOf (c :: rest)
      match rest with
      | '(' :: rest =>
        let (arguments, behind) := partsUntil (some ')') fuel rest
        more (.call name arguments (rest.take (rest.length - behind.length))) behind
      | rest => more (.ident name) rest
    else if c = '[' then
      let (parts, rest) := partsUntil (some ']') fuel rest
      more (.square parts) rest
    else if ['(', ')', ']', '\x7b', '\x7d'].contains c then more .bad rest
    else if ['~', '|', '^', '$', '*'].contains c && rest.head? = some '=' then
      more (.compare c) (rest.drop 1)
    else more (.mark c) rest

/-- The parts of a text, by `partsUntil` its end. -/
def parts (cs : List Char) : List Part := (partsUntil none (cs.length + 1) cs).1

end Part

end Gazette.Selector
