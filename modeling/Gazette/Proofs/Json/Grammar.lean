import Gazette.Json.Token

/-!
# The grammar of JSON

`Derives plain part cs` says that the run `cs` is a value, an object, the items of a list or the members of an object,
as RFC 8259 has it, where the characters that stand unescaped in strings all satisfy `plain`. With a `plain` that all
characters satisfy this is the grammar of JSON.
-/

namespace Gazette.Json

/-- White space between the parts of a text, or none. -/
def IsGap (cs : List Char) : Prop := ∀ c ∈ cs, isSpace c

theorem isGap_nil : IsGap [] := List.forall_mem_nil _

/-- One digit or more. -/
def IsDigits (cs : List Char) : Prop := cs ≠ [] ∧ ∀ c ∈ cs, c.isDigit

/-- The whole part of a number, which begins with a zero only if it is zero. -/
def IsWhole (cs : List Char) : Prop := IsDigits cs ∧ (cs.head? = some '0' → cs = ['0'])

/-- The fraction of a number with its point, or none. -/
def IsFraction (cs : List Char) : Prop := cs = [] ∨ ∃ digits, cs = '.' :: digits ∧ IsDigits digits

/-- The exponent of a number with its letter, or none. -/
def IsExponent (cs : List Char) : Prop :=
  cs = [] ∨ ∃ mark ∈ ['e', 'E'], ∃ sign ∈ [[], ['+'], ['-']], ∃ digits,
    cs = mark :: sign ++ digits ∧ IsDigits digits

/-- A number: a sign or none, `IsWhole`, `IsFraction` and `IsExponent`. -/
def IsNumber (cs : List Char) : Prop :=
  ∃ sign ∈ [[], ['-']], ∃ whole fraction exponent,
    cs = sign ++ whole ++ fraction ++ exponent ∧
      IsWhole whole ∧ IsFraction fraction ∧ IsExponent exponent

/-- The characters that may stand behind a backslash alone. -/
def escapeLetters : List Char := ['"', '\\', '/', 'b', 'f', 'n', 'r', 't']

variable (plain : Char → Prop)

/-- What may stand between the quotes of a string: characters that satisfy `plain`, and escapes. -/
inductive IsBody : List Char → Prop
  /-- Nothing. -/
  | nil : IsBody []
  /-- A character that stands for itself. -/
  | char {c : Char} {cs : List Char} (visible : 0x20 ≤ c.toNat) (notQuote : c ≠ '"')
      (notBackslash : c ≠ '\\') (allowed : plain c) (more : IsBody cs) : IsBody (c :: cs)
  /-- An escape of one letter. -/
  | escape {c : Char} {cs : List Char} (letter : c ∈ escapeLetters) (more : IsBody cs) :
      IsBody ('\\' :: c :: cs)
  /-- An escape of four hexadecimal digits. -/
  | unit {digits cs : List Char} (four : digits.length = 4)
      (hex : ∀ c ∈ digits, Number.isHexDigit c) (more : IsBody cs) :
      IsBody ('\\' :: 'u' :: digits ++ cs)

/-- A string: `IsBody` between quotes. -/
def IsString (cs : List Char) : Prop := ∃ body, cs = '"' :: body ++ ['"'] ∧ IsBody plain body

variable {plain} in
/-- Characters that stand for themselves and satisfy `plain` make a string. -/
theorem isString_of_forall {body : List Char}
    (h : ∀ c ∈ body, 0x20 ≤ c.toNat ∧ c ≠ '"' ∧ c ≠ '\\' ∧ plain c) :
    IsString plain ('"' :: body ++ ['"']) := by
  refine ⟨body, rfl, ?_⟩
  induction body with
  | nil => exact .nil
  | cons c body ih =>
    obtain ⟨visible, notQuote, notBackslash, allowed⟩ := h c List.mem_cons_self
    exact .char visible notQuote notBackslash allowed (ih fun c mem ↦ h c (List.mem_cons_of_mem _ mem))

/-- The parts of a text that `Derives` is about. -/
inductive Part
  /-- A value. -/
  | value
  /-- An object. -/
  | object
  /-- A value with white space around it. -/
  | element
  /-- One element or more, commas between them. -/
  | elements
  /-- A key and an element. -/
  | member
  /-- One member or more, commas between them. -/
  | members

/-- `Derives plain part cs`: the run `cs` is a part of the kind `part`. -/
inductive Derives : Part → List Char → Prop
  /-- The value `null`. -/
  | null : Derives .value "null".toList
  /-- The value `true`. -/
  | true : Derives .value "true".toList
  /-- The value `false`. -/
  | false : Derives .value "false".toList
  /-- A number. -/
  | number {cs : List Char} (number : IsNumber cs) : Derives .value cs
  /-- A string. -/
  | string {cs : List Char} (string : IsString plain cs) : Derives .value cs
  /-- A list without elements. -/
  | emptyList {gap : List Char} (space : IsGap gap) : Derives .value ('[' :: gap ++ [']'])
  /-- A list with elements. -/
  | list {cs : List Char} (elements : Derives .elements cs) : Derives .value ('[' :: cs ++ [']'])
  /-- An object. -/
  | ofObject {cs : List Char} (object : Derives .object cs) : Derives .value cs
  /-- An object without members. -/
  | emptyObject {gap : List Char} (space : IsGap gap) : Derives .object ('\x7b' :: gap ++ ['\x7d'])
  /-- An object with members. -/
  | object {cs : List Char} (members : Derives .members cs) :
      Derives .object ('\x7b' :: cs ++ ['\x7d'])
  /-- A value with white space around it. -/
  | element {before cs behind : List Char} (space : IsGap before) (value : Derives .value cs)
      (space' : IsGap behind) : Derives .element (before ++ cs ++ behind)
  /-- One element. -/
  | lastElement {cs : List Char} (element : Derives .element cs) : Derives .elements cs
  /-- An element in front of others. -/
  | elements {first more : List Char} (element : Derives .element first)
      (elements : Derives .elements more) : Derives .elements (first ++ ',' :: more)
  /-- A key and an element, a colon between them. -/
  | member {before key behind cs : List Char} (space : IsGap before) (string : IsString plain key)
      (space' : IsGap behind) (element : Derives .element cs) :
      Derives .member (before ++ key ++ behind ++ ':' :: cs)
  /-- One member. -/
  | lastMember {cs : List Char} (member : Derives .member cs) : Derives .members cs
  /-- A member in front of others. -/
  | members {first more : List Char} (member : Derives .member first)
      (members : Derives .members more) : Derives .members (first ++ ',' :: more)

end Gazette.Json
