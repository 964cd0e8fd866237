import Gazette.Bytes.Utf8
import Gazette.Number.Digits

/-!
# Faults in a JSON text

A `Fault` has a cause and, once it is placed, the characters that were left to read. Line and column follow from
these and the whole text: `Fault.message`.
-/

namespace Gazette.Json

/-- Why a JSON text is refused. -/
inductive Cause
  /-- The text ends in a list. -/
  | endInList
  /-- The text ends in an object. -/
  | endInObject
  /-- The text ends in a string. -/
  | endInString
  /-- The text ends where a value is due. -/
  | endInValue
  /-- No colon behind a key. -/
  | colonExpected
  /-- No comma between items. -/
  | listCommaOrEnd
  /-- No comma between members. -/
  | objectCommaOrEnd
  /-- A misspelt `null`, `true` or `false`. -/
  | wordExpected
  /-- No value where one is due. -/
  | valueExpected
  /-- An unknown escape in a string. -/
  | badEscape
  /-- A misshapen number. -/
  | badNumber
  /-- A number beyond the greatest one. -/
  | numberTooLarge
  /-- An escaped half of a surrogate pair without the other half. -/
  | loneSurrogate
  /-- No escape behind the first half of a surrogate pair. -/
  | halfPair
  /-- A key that is no string. -/
  | keyExpected
  /-- A control character in a string. -/
  | controlCharacter
  /-- A comma before the end of a list or object. -/
  | trailingComma
  /-- Something behind the value. -/
  | trailingCharacters
  /-- Lists and objects too deep in each other. -/
  | tooDeep
  /-- A value of another type than the one expected. -/
  | wrongType (found expected : String)
  /-- A value of the expected type that is not allowed. -/
  | wrongValue (found expected : String)
  /-- A list of another length than the one expected. -/
  | wrongLength (count : Nat) (expected : String)
  /-- A field given twice. -/
  | duplicate (field : String)
  /-- A field not given. -/
  | missing (field : String)
  /-- A value of none of the accepted types. -/
  | noVariant
  /-- A string that does not hold what it should. -/
  | content (message : String)
deriving DecidableEq, Repr

/-- The wording of a cause. -/
def Cause.message : Cause → String
  | endInList => "EOF while parsing a list"
  | endInObject => "EOF while parsing an object"
  | endInString => "EOF while parsing a string"
  | endInValue => "EOF while parsing a value"
  | colonExpected => "expected `:`"
  | listCommaOrEnd => "expected `,` or `]`"
  | objectCommaOrEnd => "expected `,` or `\x7d`"
  | wordExpected => "expected ident"
  | valueExpected => "expected value"
  | badEscape => "invalid escape"
  | badNumber => "invalid number"
  | numberTooLarge => "number out of range"
  | loneSurrogate => "lone leading surrogate in hex escape"
  | halfPair => "unexpected end of hex escape"
  | keyExpected => "key must be a string"
  | controlCharacter => "control character (\\u0000-\\u001F) found while parsing a string"
  | trailingComma => "trailing comma"
  | trailingCharacters => "trailing characters"
  | tooDeep => "recursion limit exceeded"
  | wrongType found expected => "invalid type: " ++ found ++ ", expected " ++ expected
  | wrongValue found expected => "invalid value: " ++ found ++ ", expected " ++ expected
  | wrongLength count expected =>
    "invalid length " ++ Number.decimalText count ++ ", expected " ++ expected
  | duplicate field => "duplicate field `" ++ field ++ "`"
  | missing field => "missing field `" ++ field ++ "`"
  | noVariant => "data did not match any variant of untagged enum Repr"
  | content message => message

/-- Where reading stopped: what was left then, and how many bytes of it had been looked at. -/
structure Place where
  /-- The characters left to read. -/
  rest : List Char
  /-- How many bytes of them lie in front of the place. -/
  ahead : Nat
deriving DecidableEq, Repr

/-- A fault met while reading. -/
structure Fault where
  /-- Why the text is refused. -/
  cause : Cause
  /-- Where; none as long as the fault has no place. -/
  place : Option Place
deriving DecidableEq, Repr

namespace Fault

/-- A fault in front of `rest`, the characters left to read. -/
def before (cause : Cause) (rest : List Char) : Fault := ⟨cause, some ⟨rest, 0⟩⟩

/-- A fault at the first character of `rest`. -/
def atFirst (cause : Cause) (rest : List Char) : Fault := ⟨cause, some ⟨rest, 1⟩⟩

/-- A fault that has no place yet. -/
def unplaced (cause : Cause) : Fault := ⟨cause, none⟩

end Fault

/-- Line, counted from 1, and column in bytes behind a run of bytes. -/
def lineAndColumn (bytes : List UInt8) : Nat × Nat :=
  let behindBreak := bytes.reverse.takeWhile (· ≠ 10)
  (1 + bytes.count 10, behindBreak.length)

/-- The wording of a fault met while reading `text`. -/
def Fault.message (text : List Char) (f : Fault) : String :=
  match f.place with
  | none => f.cause.message
  | some ⟨rest, ahead⟩ =>
    let read := Utf8.encode (text.take (text.length - rest.length))
    let (line, column) := lineAndColumn (read ++ (Utf8.encode rest).take ahead)
    f.cause.message ++ " at line " ++ Number.decimalText line ++ " column " ++
      Number.decimalText column

end Gazette.Json
