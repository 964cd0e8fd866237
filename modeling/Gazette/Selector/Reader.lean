import Gazette.Selector.Basic
import Gazette.Selector.Token

/-!
# Reading selectors

`Selector.parse?` reads a list of selectors with commas from the `parts` of a text. A text with anything in it
that is no selector is none as a whole (`list?`); only the lists in `:is()` and `:where()` leave out what they
cannot read (`readable`).
-/

namespace Gazette.Selector

/-- The attributes whose values compare without regard to case in HTML. -/
def looseAttributes : List String :=
  ["accept", "accept-charset", "align", "alink", "axis", "bgcolor", "charset", "checked", "clear",
    "codetype", "color", "compact", "declare", "defer", "dir", "direction", "disabled", "enctype",
    "face", "frame", "hreflang", "http-equiv", "lang", "language", "link", "media", "method",
    "multiple", "nohref", "noresize", "noshade", "nowrap", "readonly", "rel", "rev", "rules",
    "scope", "scrolling", "selected", "shape", "target", "text", "type", "valign", "valuetype",
    "vlink"]

/-- Parts without white space in front. -/
def skipSpace : List Part → List Part
  | .space :: rest => skipSpace rest
  | parts => parts

def lower (cs : List Char) : String := String.ofList (Chars.asciiLower cs)

/-! ## Attributes -/

/-- The text that a value is compared with, and what follows it. -/
def value? (parts : List Part) : Option (String × List Part) :=
  match skipSpace parts with
  | .ident s :: rest => some (String.ofList s, rest)
  | .string s :: rest => some (String.ofList s, rest)
  | _ => none

/-- The rule that stands behind a value, or the usual one. -/
def caseRule? (usual : CaseRule) (parts : List Part) : Option CaseRule :=
  match skipSpace parts with
  | [] => some usual
  | .ident s :: rest =>
    if (skipSpace rest).isEmpty then
      if lower s = "i" then some .loose else if lower s = "s" then some .strict else none
    else none
  | _ => none

/-- A test of an attribute behind its name. -/
def attributeTest? (anywhere : Bool) (name : List Char) (parts : List Part) : Option Selector :=
  let usual : CaseRule := if looseAttributes.contains (lower name) then .looseInHtml else .strict
  let make (test : String → AttributeTest) (rest : List Part) : Option Selector := do
    let (text, rest) ← value? rest
    let rule ← caseRule? usual rest
    return .hasAttribute anywhere (String.ofList name) (test text) rule
  match skipSpace parts with
  | [] => some (.hasAttribute anywhere (String.ofList name) .present .strict)
  | .mark '=' :: rest => make .equal rest
  | .compare '~' :: rest => make .word rest
  | .compare '|' :: rest => make .dashed rest
  | .compare '^' :: rest => make .starts rest
  | .compare '$' :: rest => make .ends rest
  | .compare '*' :: rest => make .holds rest
  | _ => none

/-- A test of an attribute in square brackets, by `attributeTest?`. -/
def attribute? (parts : List Part) : Option Selector :=
  match skipSpace parts with
  | .mark '*' :: .mark '|' :: .ident name :: rest => attributeTest? true name rest
  | .mark '|' :: .ident name :: rest => attributeTest? false name rest
  | .ident _ :: .mark '|' :: .ident _ :: _ => none
  | .ident name :: rest => attributeTest? false name rest
  | _ => none

/-! ## Numbers of siblings -/

/-- An unsigned whole number. -/
def digits? (cs : List Char) : Option Int :=
  if cs.isEmpty || !cs.all Char.isDigit then none
  else some (Number.valueIn 10 cs)

/-- A sign, and what follows it. -/
def sign : List Char → Int × List Char
  | '+' :: rest => (1, rest)
  | '-' :: rest => (-1, rest)
  | cs => (1, cs)

/-- Step and start of `2n+1` and the like. -/
def series? (cs : List Char) : Option (Int × Int) :=
  let cs := Chars.trimBy Part.isSpace (Chars.asciiLower cs)
  if cs = "even".toList then some (2, 0)
  else if cs = "odd".toList then some (2, 1)
  else
    let (s, rest) := sign cs
    let lead := rest.takeWhile Char.isDigit
    match rest.drop lead.length with
    | [] => (digits? lead).map fun n ↦ (0, s * n)
    | 'n' :: rest =>
      let step := if lead.isEmpty then some 1 else digits? lead
      match rest.dropWhile Part.isSpace with
      | [] => step.map fun n ↦ (s * n, 0)
      | c :: more =>
        if c = '+' ∨ c = '-' then do
          let n ← step
          let m ← digits? (more.dropWhile Part.isSpace)
          return (s * n, if c = '-' then -m else m)
        else none
    | _ => none

/-! ## Selectors -/

/-- The tests by a single word. -/
def pseudo? (name : String) : Option Selector :=
  match name with
  | "first-child" => some (.nth false false 0 1)
  | "last-child" => some (.nth true false 0 1)
  | "only-child" => some (.all [.nth false false 0 1, .nth true false 0 1])
  | "first-of-type" => some (.nth false true 0 1)
  | "last-of-type" => some (.nth true true 0 1)
  | "only-of-type" => some (.all [.nth false true 0 1, .nth true true 0 1])
  | "root" => some .root
  | "empty" => some .isEmpty
  | "scope" => some .scope
  | _ => none

/-- A name in front of the tests of an element, if one stands there, and what follows it. -/
def type? (parts : List Part) : Option (Option Selector × List Part) :=
  match parts with
  | .mark '*' :: .mark '|' :: .mark '*' :: rest => some (some .every, rest)
  | .mark '*' :: .mark '|' :: .ident s :: rest => some (some (.type (String.ofList s)), rest)
  | .mark '*' :: .mark '|' :: _ => none
  | .mark '|' :: .mark '*' :: rest => some (some .noLanguage, rest)
  | .mark '|' :: .ident _ :: rest => some (some .noLanguage, rest)
  | .mark '|' :: _ => none
  | .ident _ :: .mark '|' :: _ => none
  | .mark '*' :: rest => some (some .every, rest)
  | .ident s :: rest => some (some (.type (String.ofList s)), rest)
  | parts => some (none, parts)

/-- How an element stands to the one in front, and what follows the sign for it; nothing at the end. -/
def combinator? (parts : List Part) : Option (Combinator × List Part) :=
  let rest := skipSpace parts
  match rest with
  | .mark '>' :: rest => some (.child, skipSpace rest)
  | .mark '+' :: rest => some (.next, skipSpace rest)
  | .mark '~' :: rest => some (.later, skipSpace rest)
  | [] => none
  | rest =>
    match parts with
    | .space :: _ => some (.descendant, rest)
    | _ => none

/-- The parts between commas. -/
def items : List Part → List (List Part)
  | [] => [[]]
  | .mark ',' :: rest => [] :: items rest
  | p :: rest =>
    match items rest with
    | [] => [[p]]
    | item :: more => (p :: item) :: more

mutual

/-- The tests of an element, and what follows them: names, `attribute?`, `pseudo?` and `call?`. `inHas` says that
they stand in `:has()`, which cannot lie in itself. -/
def tests? (inHas : Bool) : Nat → List Part → Option (List Selector × List Part)
  | 0, _ => none
  | fuel + 1, parts =>
    let more (test : Selector) (rest : List Part) : Option (List Selector × List Part) :=
      (tests? inHas fuel rest).map fun (tests, rest) ↦ (test :: tests, rest)
    match parts with
    | .hash s true :: rest => more (.id (String.ofList s)) rest
    | .hash _ false :: _ => none
    | .mark '.' :: .ident s :: rest => more (.hasClass (String.ofList s)) rest
    | .mark '.' :: _ => none
    | .square inner :: rest => do more (← attribute? inner) rest
    | .mark ':' :: .ident s :: rest => do more (← pseudo? (lower s)) rest
    | .mark ':' :: .call name arguments source :: rest => do
      more (← call? inHas fuel (lower name) arguments (source.take (source.length - 1))) rest
    | .mark ':' :: _ => none
    | parts => some ([], parts)

/-- A test with arguments. -/
def call? (inHas : Bool) : Nat → String → List Part → List Char → Option Selector
  | 0, _, _, _ => none
  | fuel + 1, name, arguments, source =>
    let nth (fromEnd sameName : Bool) : Option Selector :=
      (series? source).map fun (step, start) ↦ .nth fromEnd sameName step start
    match name with
    | "nth-child" => nth false false
    | "nth-last-child" => nth true false
    | "nth-of-type" => nth false true
    | "nth-last-of-type" => nth true true
    | "not" => (list? inHas fuel (items arguments)).map fun l ↦ .not (.any l)
    | "is" => some (.any (readable inHas fuel (items arguments)))
    | "where" => some (.any (readable inHas fuel (items arguments)))
    | "has" => if inHas then none else (relatives? fuel (items arguments)).map .any
    | _ => none

/-- The `tests?` of one element, at least one, with its `type?` in front. -/
def compound? (inHas : Bool) : Nat → List Part → Option (Selector × List Part)
  | 0, _ => none
  | fuel + 1, parts => do
    let (named, rest) ← type? parts
    let (tests, rest) ← tests? inHas fuel rest
    match named.toList ++ tests with
    | [] => none
    | tests => some (.all tests, rest)

/-- The tests of an element and of those to which it stands, the outer ones being given. -/
def chain? (inHas : Bool) : Nat → Selector → List Part → Option Selector
  | 0, _, _ => none
  | fuel + 1, context, parts =>
    match combinator? parts with
    | none => if (skipSpace parts).isEmpty then some context else none
    | some (how, rest) => do
      let (test, rest) ← compound? inHas fuel rest
      chain? inHas fuel (.behind context how test) rest

/-- A selector without commas: a `compound?` and the `chain?` behind it. -/
def single? (inHas : Bool) : Nat → List Part → Option Selector
  | 0, _ => none
  | fuel + 1, parts => do
    let (test, rest) ← compound? inHas fuel (skipSpace parts)
    chain? inHas fuel test rest

/-- Selectors all of which `single?` can read. -/
def list? (inHas : Bool) : Nat → List (List Part) → Option (List Selector)
  | 0, _ => none
  | _ + 1, [] => some []
  | fuel + 1, item :: rest => do return (← single? inHas fuel item) :: (← list? inHas fuel rest)

/-- The selectors that `single?` can read. -/
def readable (inHas : Bool) : Nat → List (List Part) → List Selector
  | 0, _ => []
  | _ + 1, [] => []
  | fuel + 1, item :: rest => (single? inHas fuel item).toList ++ readable inHas fuel rest

/-- Selectors that look on from an element. -/
def relatives? : Nat → List (List Part) → Option (List Selector)
  | 0, _ => none
  | _ + 1, [] => some []
  | fuel + 1, item :: rest => do
    let (how, inner) :=
      match combinator? item with
      | some (how, inner) => (how, inner)
      | none => (.descendant, item)
    let (test, others) ← compound? true fuel inner
    let sel ← chain? true fuel (.behind .anchor how test) others
    return .has (how == .next || how == .later) sel :: (← relatives? fuel rest)

end

/-- The selector of a text: any of the `list?` of its `items`. -/
def parse? (s : String) : Option Selector :=
  (list? false (8 * s.toList.length + 8) (items (Part.parts s.toList))).map .any

end Gazette.Selector
