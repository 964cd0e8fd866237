import Gazette.Json.Token

/-!
# Skipping a JSON value

`Json.skipValue` passes over a value without keeping it. It checks less than `Json.value`: numbers may be of any
size, halves of surrogate pairs may stand alone, and nothing bounds how deep lists and objects lie in each
other.
-/

namespace Gazette.Json

/-- What an open bracket opened. -/
inductive Frame
  /-- A list. -/
  | list
  /-- An object. -/
  | object
deriving DecidableEq, Repr

/-- The character that closes a frame. -/
def Frame.close : Frame → Char
  | list => ']'
  | object => '\x7d'

/-- The cause of a fault where the text ends in a frame. -/
def Frame.unclosed : Frame → Cause
  | list => .endInList
  | object => .endInObject

/-- The cause of a fault where a comma is due in a frame. -/
def Frame.commaOrEnd : Frame → Cause
  | list => .listCommaOrEnd
  | object => .objectCommaOrEnd

/-- An escape behind its backslash. -/
def skipEscape : Reads Unit
  | [] => .error (.before .endInString [])
  | c :: rest =>
    if c = 'u' then do return ((), (← hexUnit rest).2)
    else if c ∈ ['"', '\\', '/', 'b', 'f', 'n', 'r', 't'] then .ok ((), rest)
    else .error (.atFirst .badEscape (c :: rest))

/-- A string behind its opening quote. The fuel bounds the number of its characters. -/
def skipString : Nat → Reads Unit
  | 0, _ => .error (.before .endInString [])
  | _ + 1, [] => .error (.before .endInString [])
  | fuel + 1, c :: rest =>
    if c = '"' then .ok ((), rest)
    else if c = '\\' then do
      let ((), rest) ← skipEscape rest
      skipString fuel rest
    else if c.toNat < 0x20 then .error (.before .controlCharacter (c :: rest))
    else skipString fuel rest

/-- An exponent, where an `e` stands. -/
def skipExponent : Reads Unit := fun cs ↦
  let digits (rest : List Char) : Except Fault (Unit × List Char) :=
    match rest with
    | [] => .error (.before .badNumber [])
    | c :: rest =>
      if c.isDigit then .ok ((), rest.dropWhile Char.isDigit)
      else .error (.atFirst .badNumber (c :: rest))
  match cs with
  | [] => .ok ((), [])
  | c :: rest =>
    if c = 'e' ∨ c = 'E' then
      match rest with
      | '+' :: rest => digits rest
      | '-' :: rest => digits rest
      | rest => digits rest
    else .ok ((), c :: rest)

/-- A fraction and an exponent, where they stand. -/
def skipNumberTail : Reads Unit
  | '.' :: rest =>
    let behind := rest.dropWhile Char.isDigit
    if (digitsOf rest).isEmpty then .error (.atFirst .badNumber rest) else skipExponent behind
  | cs => skipExponent cs

/-- A number behind its sign. -/
def skipNumber : Reads Unit
  | [] => .error (.before .badNumber [])
  | c :: rest =>
    if c = '0' then
      if (digitsOf rest).isEmpty then skipNumberTail rest else .error (.atFirst .badNumber rest)
    else if c.isDigit then skipNumberTail (rest.dropWhile Char.isDigit)
    else .error (.atFirst .badNumber (c :: rest))

/-- A word, a number or a string behind its first character, or the fault of none. -/
def skipScalar (c : Char) (rest : List Char) : Except Fault (Unit × List Char) :=
  if c = 'n' then word "ull".toList rest
  else if c = 't' then word "rue".toList rest
  else if c = 'f' then word "alse".toList rest
  else if c = '-' then skipNumber rest
  else if c.isDigit then skipNumber (c :: rest)
  else if c = '"' then skipString (rest.length + 1) rest
  else .error (.atFirst .valueExpected (c :: rest))

/-- What stands in front of a value in a frame: nothing in a list, a key and a colon in an object. -/
def skipKey : Frame → Reads Unit
  | .list, cs => .ok ((), cs)
  | .object, cs =>
    match skipSpace cs with
    | [] => .error (.before .endInObject [])
    | '"' :: rest => do
      let ((), rest) ← skipString (rest.length + 1) rest
      colon rest
    | rest => .error (.atFirst .keyExpected rest)

/-- The brackets that close here and what leads to the next value: the frames in which that value is
due, none at the end. -/
def skipToValue (behindValue : Bool) : List Frame → Reads (List Frame)
  | [], cs => .ok ([], cs)
  | frame :: frames, cs =>
    match skipSpace cs with
    | [] => .error (.before frame.unclosed [])
    | c :: rest =>
      if c = ',' && behindValue then do
        let ((), rest) ← skipKey frame rest
        return (frame :: frames, rest)
      else if c = frame.close then skipToValue true frames rest
      else if behindValue then .error (.atFirst frame.commaOrEnd (c :: rest))
      else do
        let ((), rest) ← skipKey frame (c :: rest)
        return (frame :: frames, rest)

/-- A value in frames, and all that follows up to the end of the outermost frame. The fuel bounds the
number of values. -/
def skipIn : Nat → List Frame → Reads Unit
  | 0, _, _ => .error (.before .endInValue [])
  | fuel + 1, frames, cs =>
    match skipSpace cs with
    | [] => .error (.before .endInValue [])
    | c :: rest => do
      let (frames, rest) ←
        if c = '[' then skipToValue false (.list :: frames) rest
        else if c = '\x7b' then skipToValue false (.object :: frames) rest
        else do
          let ((), rest) ← skipScalar c rest
          skipToValue true frames rest
      if frames.isEmpty then return ((), rest) else skipIn fuel frames rest

/-- A value. -/
def skipValue : Reads Unit := fun cs ↦ skipIn (cs.length + 1) [] cs

end Gazette.Json
