import Gazette.Html.Reference
import Gazette.Number.Digits

/-!
# The parts of an HTML text

Tags (`Tag`), document types (`Doctype`), comments and runs of characters, as they stand in a text: `Token`. The
one in front is `next`; in raw text only an end tag counts (`rawText`, `scriptText`). Line ends are line feeds
here, and names are in lower case.
-/

namespace Gazette.Html

/-- A tag. -/
structure Tag where
  /-- The name. -/
  name : String
  /-- The attributes, each name once. -/
  attributes : List (String × String)
  /-- Whether a slash stands before the end. -/
  selfClosing : Bool
deriving DecidableEq, Repr

/-- A document type. -/
structure Doctype where
  /-- The name. -/
  name : Option String
  /-- The public identifier. -/
  publicId : Option String
  /-- The system identifier. -/
  systemId : Option String
  /-- Whether it is misshapen. -/
  isBroken : Bool
deriving DecidableEq, Repr

/-- A part of a text. -/
inductive Token
  /-- A document type. -/
  | doctype (d : Doctype)
  /-- A start tag. -/
  | startTag (t : Tag)
  /-- An end tag. -/
  | endTag (t : Tag)
  /-- A comment. -/
  | comment (text : String)
  /-- White space. -/
  | blank (run : List Char)
  /-- Characters none of which is white space. -/
  | text (run : List Char)
  /-- A character of code point 0. -/
  | nul
  /-- The end. -/
  | eof
deriving DecidableEq, Repr

/-- White space. -/
def isSpace (c : Char) : Bool := c == ' ' || c == '\n' || c == '\t' || c == '\x0c' || c == '\r'

/-- The sign for what cannot be shown. -/
def replacement : Char := '\ufffd'

/-- A character, or the replacement sign for the one of code point 0. -/
def visible (c : Char) : Char := if c.toNat = 0 then replacement else c

/-! ## Character references -/

/-- The characters that numbers from 128 to 159 stand for. -/
def upperRow : List Nat :=
  [0x20AC, 0x81, 0x201A, 0x0192, 0x201E, 0x2026, 0x2020, 0x2021, 0x02C6, 0x2030, 0x0160, 0x2039,
    0x0152, 0x8D, 0x017D, 0x8F, 0x90, 0x2018, 0x2019, 0x201C, 0x201D, 0x2022, 0x2013, 0x2014,
    0x02DC, 0x2122, 0x0161, 0x203A, 0x0153, 0x9D, 0x017E, 0x0178]

/-- The character that a number stands for; `upperRow` has those from 128 to 159. -/
def numbered (n : Nat) : Char :=
  if n = 0 ∨ 0x10FFFF < n ∨ (0xD800 ≤ n ∧ n ≤ 0xDFFF) then replacement
  else if 0x80 ≤ n ∧ n ≤ 0x9F then Char.ofNat (upperRow.getD (n - 0x80) n)
  else Char.ofNat n

/-- A number reference behind its `#`, and what follows it. -/
def numberReference (base : Nat) (isDigit : Char → Bool) (cs : List Char) :
    Option (List Char × List Char) :=
  let digits := cs.takeWhile isDigit
  let rest := cs.drop digits.length
  if digits.isEmpty then none
  else some ([numbered (Number.valueIn base digits)], Chars.dropLead [';'] rest)

/-- What an ampersand and the characters behind it stand for, by `numberReference` or `namedReference?`, and the
characters that are left. In an attribute a name without a semicolon stands for itself if a letter, a digit or `=`
follows it. -/
def reference (inAttribute : Bool) (cs : List Char) : List Char × List Char :=
  let found :=
    match cs with
    | '#' :: 'x' :: rest => numberReference 16 Number.isHexDigit rest
    | '#' :: 'X' :: rest => numberReference 16 Number.isHexDigit rest
    | '#' :: rest => numberReference 10 Char.isDigit rest
    | cs =>
      match namedReference? cs with
      | none => none
      | some (name, value) =>
        let rest := cs.drop name.length
        let isOpen := name.getLast? != some ';'
        if inAttribute && isOpen && rest.head?.any (fun c ↦ c == '=' || c.isAlphanum) then none
        else some (value, rest)
  found.getD (['&'], cs)

/-- A run of characters with its references resolved. The fuel bounds their number. -/
def resolveFrom (inAttribute : Bool) : Nat → List Char → List Char
  | 0, _ => []
  | _, [] => []
  | fuel + 1, c :: rest =>
    if c = '&' then
      let (value, rest) := reference inAttribute rest
      value ++ resolveFrom inAttribute fuel rest
    else visible c :: resolveFrom inAttribute fuel rest

/-- A run of characters with every `reference` resolved. -/
def resolve (inAttribute : Bool) (cs : List Char) : List Char :=
  resolveFrom inAttribute cs.length cs

/-! ## Tags -/

/-- Whether a character ends a tag name. -/
def endsName (c : Char) : Bool := isSpace c || c == '/' || c == '>'

def nameOf (cs : List Char) : String := String.ofList (cs.map fun c ↦ visible c.toLower)

/-- Attributes with one more, unless one of its name is there. -/
def addAttribute (attributes : List (String × String)) (name value : String) :
    List (String × String) :=
  if attributes.any (·.1 == name) then attributes else attributes ++ [(name, value)]

/-- The value of an attribute behind its `=`, and what follows it; nothing if the text ends. -/
def attributeValue? (cs : List Char) : Option (List Char × List Char) :=
  match cs.dropWhile isSpace with
  | [] => none
  | '"' :: rest =>
    let value := rest.takeWhile (· ≠ '"')
    match rest.drop value.length with
    | [] => none
    | _ :: rest => some (resolve true value, rest)
  | '\'' :: rest =>
    let value := rest.takeWhile (· ≠ '\'')
    match rest.drop value.length with
    | [] => none
    | _ :: rest => some (resolve true value, rest)
  | '>' :: rest => some ([], '>' :: rest)
  | rest =>
    let value := rest.takeWhile fun c ↦ !(isSpace c || c == '>')
    match rest.drop value.length with
    | [] => none
    | rest => some (resolve true value, rest)

/-- The attributes of a tag up to its end, and what follows it; nothing if the text ends. The fuel
bounds the number of attributes and slashes. -/
def attributesFrom (name : String) (before : List (String × String)) :
    Nat → List Char → Option (Tag × List Char)
  | 0, _ => none
  | fuel + 1, cs =>
    match cs.dropWhile isSpace with
    | [] => none
    | '>' :: rest => some (⟨name, before, false⟩, rest)
    | '/' :: '>' :: rest => some (⟨name, before, true⟩, rest)
    | '/' :: rest => attributesFrom name before fuel rest
    | c :: rest =>
      let key := c :: rest.takeWhile fun c ↦ !(endsName c || c == '=')
      match (rest.drop (key.length - 1)).dropWhile isSpace with
      | [] => none
      | '=' :: behind =>
        match attributeValue? behind with
        | none => none
        | some (value, rest) =>
          attributesFrom name (addAttribute before (nameOf key) (String.ofList value)) fuel rest
      | rest => attributesFrom name (addAttribute before (nameOf key) "") fuel rest

/-- A tag behind its opening characters, with its attributes by `attributesFrom`, and what follows it; nothing if
the text ends. -/
def tag? (cs : List Char) : Option (Tag × List Char) :=
  let name := cs.takeWhile fun c ↦ !endsName c
  attributesFrom (nameOf name) [] (cs.length + 1) (cs.drop name.length)

/-! ## Comments and document types -/

/-- The characters up to the end of a comment, and those behind it. -/
def commentBody : List Char → List Char × List Char
  | [] => ([], [])
  | '-' :: '-' :: '>' :: rest => ([], rest)
  | '-' :: '-' :: '!' :: '>' :: rest => ([], rest)
  | c :: rest =>
    let (body, rest) := commentBody rest
    (visible c :: body, rest)

/-- A comment behind `<!--`, by `commentBody`, and what follows it. -/
def comment (cs : List Char) : Token × List Char :=
  match cs with
  | '>' :: rest => (.comment "", rest)
  | '-' :: '>' :: rest => (.comment "", rest)
  | cs =>
    let (body, rest) := commentBody cs
    (.comment (String.ofList body), rest)

/-- A comment of all that stands up to the next `>`. -/
def bogusComment (cs : List Char) : Token × List Char :=
  let body := cs.takeWhile (· ≠ '>')
  (.comment (String.ofList (body.map visible)), (cs.drop body.length).drop 1)

/-- A quoted identifier of a document type, whether it is closed, and what follows it. -/
def identifier? (cs : List Char) : Option (String × Bool × List Char) :=
  match cs.dropWhile isSpace with
  | q :: rest =>
    if q = '"' ∨ q = '\'' then
      let body := rest.takeWhile fun c ↦ c ≠ q && c ≠ '>'
      let text := String.ofList (body.map visible)
      match rest.drop body.length with
      | c :: rest => if c = q then some (text, true, rest) else some (text, false, c :: rest)
      | [] => some (text, false, [])
    else none
  | [] => none

/-- Whether the characters in front spell a word, in any case. -/
def spells (word : String) (cs : List Char) : Bool :=
  Chars.asciiLower (cs.take word.length) == word.toList

/-- A document type behind `<!DOCTYPE`, and what follows it. -/
def doctype (cs : List Char) : Token × List Char :=
  let cs := cs.dropWhile isSpace
  let name := cs.takeWhile fun c ↦ !(isSpace c || c == '>')
  let behind := (cs.drop name.length).dropWhile isSpace
  let name := if name.isEmpty then none else some (nameOf name)
  let close (publicId systemId : Option String) (isBroken : Bool) (cs : List Char) :
      Token × List Char :=
    let rest := cs.dropWhile (· ≠ '>')
    (.doctype ⟨name, publicId, systemId, isBroken || name.isNone || rest.isEmpty⟩, rest.drop 1)
  let system (publicId : Option String) (needed : Bool) (cs : List Char) : Token × List Char :=
    match identifier? cs with
    | some (text, isClosed, rest) => close publicId (some text) (!isClosed) rest
    | none => close publicId none (needed || (cs.dropWhile isSpace).head? != some '>') cs
  if spells "public" behind then
    match identifier? (behind.drop 6) with
    | some (text, true, rest) => system (some text) false rest
    | some (text, false, rest) => close (some text) none true rest
    | none => close none none true (behind.drop 6)
  else if spells "system" behind then system none true (behind.drop 6)
  else close none none (behind.head? != some '>') behind

/-! ## Reading a text -/

/-- The part in front of a text, and what follows it. `inForeign` says that the text stands in an
element of another language, where marked sections may occur. -/
def next (inForeign : Bool) (cs : List Char) : List Token × List Char :=
  let one (p : Token × List Char) : List Token × List Char := ([p.1], p.2)
  let tag (close : Bool) (cs : List Char) : List Token × List Char :=
    match tag? cs with
    | some (t, rest) => ([if close then .endTag t else .startTag t], rest)
    | none => ([], [])
  let runs (cs : List Char) : List Token :=
    match cs with
    | [] => []
    | cs => if cs.all isSpace then [.blank cs] else [.text cs]
  match cs with
  | [] => ([.eof], [])
  | '<' :: '!' :: '-' :: '-' :: rest => one (comment rest)
  | '<' :: '!' :: rest =>
    if spells "doctype" rest then one (doctype (rest.drop 7))
    else if inForeign && Chars.startsWith "[CDATA[".toList rest then
      let (body, rest) := (Chars.cut? "]]>".toList (rest.drop 7)).getD (rest.drop 7, [])
      (body.map fun c ↦
        if c.toNat = 0 then .nul else if isSpace c then .blank [c] else .text [c], rest)
    else one (bogusComment rest)
  | '<' :: '/' :: c :: rest =>
    if c.isAlpha then tag true (c :: rest)
    else if c = '>' then ([], rest)
    else one (bogusComment (c :: rest))
  | '<' :: '?' :: rest => one (bogusComment ('?' :: rest))
  | '<' :: c :: rest => if c.isAlpha then tag false (c :: rest) else ([.text ['<']], c :: rest)
  | '<' :: [] => ([.text ['<']], [])
  | '&' :: rest =>
    let (value, rest) := reference false rest
    (value.flatMap fun c ↦ runs [c], rest)
  | c :: rest =>
    if c.toNat = 0 then ([.nul], rest)
    else if isSpace c then
      let run := rest.takeWhile isSpace
      ([.blank (c :: run)], rest.drop run.length)
    else
      let run := rest.takeWhile fun c ↦ !(isSpace c || c == '<' || c == '&' || c.toNat == 0)
      ([.text (c :: run)], rest.drop run.length)

/-! ## Raw text -/

/-- What the text in an element may hold apart from characters. -/
inductive RawKind
  /-- Character references. -/
  | withReferences
  /-- Nothing. -/
  | plain
  /-- Nothing, but an end tag in a comment of a script does not count. -/
  | script
  /-- Nothing, not even an end tag. -/
  | endless
deriving DecidableEq, Repr

def closes (name : String) (cs : List Char) : Bool :=
  match cs with
  | '<' :: '/' :: rest =>
    spells name rest &&
      match rest.drop name.length with
      | c :: _ => endsName c
      | [] => false
  | _ => false

/-- The characters up to the end tag of an element, and those from there on. -/
def rawText (name : String) : List Char → List Char × List Char
  | [] => ([], [])
  | c :: rest =>
    if closes name (c :: rest) then ([], c :: rest)
    else
      let (body, rest) := rawText name rest
      (c :: body, rest)

/-- Where a script stands: in code, in the opening of a comment with some characters to go, in a
comment, or in a script within a comment; in the latter two with the number of dashes just passed, up to
two. -/
inductive ScriptPart
  /-- Code. -/
  | code
  /-- The opening of a comment. -/
  | opening (left : Nat)
  /-- A comment. -/
  | comment (dashes : Nat)
  /-- A script within a comment. -/
  | inner (dashes : Nat)
deriving DecidableEq, Repr

/-- Whether the characters in front spell `script` as the name of a tag. -/
def namesScript (cs : List Char) : Bool := spells "script" cs && (cs.drop 6).head?.any endsName

/-- Where a script stands behind its next character. -/
def ScriptPart.step (c : Char) (rest : List Char) : ScriptPart → ScriptPart
  | .code => if c = '<' && Chars.startsWith ['!', '-', '-'] rest then .opening 3 else .code
  | .opening left => if left ≤ 1 then .comment 2 else .opening (left - 1)
  | .comment dashes =>
    if c = '-' then .comment (min 2 (dashes + 1))
    else if c = '>' && dashes = 2 then .code
    else if c = '<' && namesScript rest then .inner 0
    else .comment 0
  | .inner dashes =>
    if c = '-' then .inner (min 2 (dashes + 1))
    else if c = '>' && dashes = 2 then .code
    else if c = '<' && rest.head? = some '/' && namesScript (rest.drop 1) then .comment 0
    else .inner 0

/-- Whether an end tag counts. -/
def ScriptPart.mayEnd : ScriptPart → Bool
  | .code => true
  | .comment _ => true
  | _ => false

/-- The characters up to the end tag of a script that `mayEnd`, and those from there on. -/
def scriptText (part : ScriptPart) : List Char → List Char × List Char
  | [] => ([], [])
  | c :: rest =>
    if part.mayEnd && closes "script" (c :: rest) then ([], c :: rest)
    else
      let (body, behind) := scriptText (part.step c rest) rest
      (c :: body, behind)

/-- The text in an element of a name, and the characters from its end tag on. -/
def RawKind.split (name : String) (cs : List Char) : RawKind → List Char × List Char
  | .withReferences =>
    let (body, rest) := rawText name cs
    (resolve false body, rest)
  | .plain =>
    let (body, rest) := rawText name cs
    (body.map visible, rest)
  | .script =>
    let (body, rest) := scriptText .code cs
    (body.map visible, rest)
  | .endless => (cs.map visible, [])

end Gazette.Html
