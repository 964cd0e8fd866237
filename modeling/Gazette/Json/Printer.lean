import Gazette.Json.Value
import Gazette.Chars.Cut

/-!
# Writing JSON

`Json.compact` writes a value on one line, `Json.pretty` with one item or member to a line, two spaces deeper
than its list or object.
-/

namespace Gazette.Json

/-- A hexadecimal digit in lower case. -/
def hexDigit (n : Nat) : Char := "0123456789abcdef".toList.getD n '0'

/-- A character as it stands in a string: quotes, backslashes and control characters as escapes. -/
def escaped (c : Char) : List Char :=
  if c = '"' then ['\\', '"']
  else if c = '\\' then ['\\', '\\']
  else if c = '\x08' then ['\\', 'b']
  else if c = '\x0c' then ['\\', 'f']
  else if c = '\n' then ['\\', 'n']
  else if c = '\r' then ['\\', 'r']
  else if c = '\t' then ['\\', 't']
  else if c.toNat < 0x20 then
    ['\\', 'u', '0', '0', hexDigit (c.toNat / 16), hexDigit (c.toNat % 16)]
  else [c]

/-- A string with its quotes, its characters `escaped`. -/
def stringText (s : String) : List Char := '"' :: s.toList.flatMap escaped ++ ['"']

mutual

/-- A value on one line. -/
def toChars : Json → List Char
  | .null => "null".toList
  | .bool true => "true".toList
  | .bool false => "false".toList
  | .number n => n.toText
  | .string s => stringText s
  | .array items => '[' :: itemsText items ++ [']']
  | .object members => '\x7b' :: membersText members ++ ['\x7d']

/-- The items of a list on one line. -/
def itemsText : List Json → List Char
  | [] => []
  | [item] => toChars item
  | item :: items => toChars item ++ ',' :: itemsText items

/-- The members of an object on one line. -/
def membersText : List (String × Json) → List Char
  | [] => []
  | [(key, value)] => stringText key ++ ':' :: toChars value
  | (key, value) :: members => stringText key ++ ':' :: toChars value ++ ',' :: membersText members

end

/-- A line break and the space in front of a line. -/
def lineBreak (depth : Nat) : List Char := '\n' :: List.replicate (2 * depth) ' '

mutual

/-- A value over several lines, `depth` lists and objects deep. -/
def toLines (depth : Nat) : Json → List Char
  | .null => "null".toList
  | .bool true => "true".toList
  | .bool false => "false".toList
  | .number n => n.toText
  | .string s => stringText s
  | .array items =>
    if items.isEmpty then ['[', ']']
    else '[' :: itemsLines (depth + 1) items ++ lineBreak depth ++ [']']
  | .object members =>
    if members.isEmpty then ['\x7b', '\x7d']
    else '\x7b' :: membersLines (depth + 1) members ++ lineBreak depth ++ ['\x7d']

/-- The items of a list, each on lines of its own. -/
def itemsLines (depth : Nat) : List Json → List Char
  | [] => []
  | [item] => lineBreak depth ++ toLines depth item
  | item :: items => lineBreak depth ++ toLines depth item ++ ',' :: itemsLines depth items

/-- The members of an object, each on lines of its own. -/
def membersLines (depth : Nat) : List (String × Json) → List Char
  | [] => []
  | [(key, value)] => lineBreak depth ++ stringText key ++ ':' :: ' ' :: toLines depth value
  | (key, value) :: members =>
    lineBreak depth ++ stringText key ++ ':' :: ' ' :: toLines depth value ++
      ',' :: membersLines depth members

end

/-- A value on one line, by `toChars`. -/
def compact (v : Json) : String := String.ofList v.toChars

/-- A value over several lines, by `toLines`. -/
def pretty (v : Json) : String := String.ofList (v.toLines 0)

end Gazette.Json
