import Gazette.Unicode.Printable
import Gazette.Chars.Cut

/-!
# Quoted text for messages

Text in double quotes as messages and diagnostic views show it: quote, backslash and the usual control
characters after a backslash, all that has no shape of its own by its code point.
-/

namespace Gazette.Text

/-- A character as it stands in quoted text. -/
def quotedChar (c : Char) : List Char :=
  if c = '\t' then ['\\', 't']
  else if c = '\r' then ['\\', 'r']
  else if c = '\n' then ['\\', 'n']
  else if c.toNat = 0 then ['\\', '0']
  else if c = '"' ∨ c = '\\' then ['\\', c]
  else if Unicode.isPrintable c && !Unicode.isExtending c then [c]
  else ['\\', 'u', '\x7b'] ++ Nat.toDigits 16 c.toNat ++ ['\x7d']

/-- Text in double quotes. -/
def quotedChars (cs : List Char) : List Char := '"' :: cs.flatMap quotedChar ++ ['"']

/-- A string in double quotes. -/
def quoted (s : String) : String := String.ofList (quotedChars s.toList)

end Gazette.Text
