import Gazette.Table
import Gazette.Text

/-!
# Headers

Names and values of the headers of a request or an answer. Names compare without regard to case and are kept in
lower case: `Headers.name?`.
-/

namespace Gazette

/-- Values under names in lower case. -/
abbrev Headers := Table String

namespace Headers

/-- The characters of a name. -/
def isNameChar (c : Char) : Bool := c.isAlphanum || "!#$%&'*+-.^_`|~".toList.contains c

/-- The greatest length of a name. -/
def nameLimit : Nat := 65535

/-- The name that a text is, in lower case, if all of it are `isNameChar` and it is within `nameLimit`. -/
def name? (s : String) : Option String :=
  let cs := s.toList
  if cs.isEmpty || nameLimit < cs.length || !cs.all isNameChar then none else some (Text.asciiLower s)

/-- Whether a text can be a value: no control character but the tab stands in it. -/
def isValue (s : String) : Bool := s.toList.all fun c ↦ c == '\t' || (0x20 ≤ c.toNat && c != '\x7f')

/-- Whether a value can be read as text: it is ASCII that can be seen, with spaces and tabs. -/
def isReadable (s : String) : Bool :=
  s.toList.all fun c ↦ c == '\t' || (0x20 ≤ c.toNat && c.toNat < 0x7F)

end Headers

end Gazette
