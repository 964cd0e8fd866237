import Gazette.Html.Spot

/-!
# Selectors

A `Selector` says of an element where it stands whether it is meant: `Selector.passesAt`. Selectors are built
from tests of the element itself by conjunction, disjunction and negation, and by looking at the elements around
it (`Combinator`). On a page they are asked by `matchesOnPage`, below an element by `matchesBelow`.
-/

namespace Gazette

/-- How the value of an attribute is compared. -/
inductive AttributeTest
  /-- The attribute is there. -/
  | present
  /-- The value is the text. -/
  | equal (text : String)
  /-- One of the words of the value is the text. -/
  | word (text : String)
  /-- The value is the text, or begins with it and a dash. -/
  | dashed (text : String)
  /-- The value begins with the text. -/
  | starts (text : String)
  /-- The value ends with the text. -/
  | ends (text : String)
  /-- The text stands in the value. -/
  | holds (text : String)
deriving DecidableEq, Repr

/-- How letters of either case compare in the value of an attribute. -/
inductive CaseRule
  /-- As different. -/
  | strict
  /-- As equal. -/
  | loose
  /-- As equal in elements of HTML. -/
  | looseInHtml
deriving DecidableEq, Repr

/-- Where an element stands to another one. -/
inductive Combinator
  /-- Somewhere below it. -/
  | descendant
  /-- Directly below it. -/
  | child
  /-- Directly behind it. -/
  | next
  /-- Somewhere behind it, below one parent. -/
  | later
deriving DecidableEq, Repr

/-- A test of elements. -/
inductive Selector
  /-- Every element. -/
  | every
  /-- Elements of no language. -/
  | noLanguage
  /-- Elements of a name. -/
  | type (name : String)
  /-- Elements of an identifier. -/
  | id (name : String)
  /-- Elements of a class. -/
  | hasClass (name : String)
  /-- Elements of an attribute. With `anywhere`, its name may belong to a language of its own. -/
  | hasAttribute (anywhere : Bool) (name : String) (test : AttributeTest) (rule : CaseRule)
  /-- The elements that are number `step * n + start` among their siblings, from the front or the back,
  among all or among those of the same name. -/
  | nth (fromEnd sameName : Bool) (step start : Int)
  /-- The outermost element. -/
  | root
  /-- Elements without text and elements in them. -/
  | isEmpty
  /-- The element in which one looks. -/
  | scope
  /-- The element from which one looks on. -/
  | anchor
  /-- Elements that pass all tests. -/
  | all (tests : List Selector)
  /-- Elements that pass some test. -/
  | any (tests : List Selector)
  /-- Elements that fail a test. -/
  | not (test : Selector)
  /-- Elements that pass a test and stand so to an element that passes another one. -/
  | behind (context : Selector) (how : Combinator) (test : Selector)
  /-- Elements from which one sees an element that passes a test, among their descendants, or among what
  follows them. -/
  | has (following : Bool) (test : Selector)
deriving Inhabited

namespace Selector

open Html

/-- A text as it compares. -/
def folded (rule : CaseRule) (n : Name) (s : String) : List Char :=
  match rule with
  | .strict => s.toList
  | .loose => Chars.asciiLower s.toList
  | .looseInHtml => if n.space = .html then Chars.asciiLower s.toList else s.toList

def isSpace (c : Char) : Bool := c == ' ' || c == '\t' || c == '\n' || c == '\r' || c == '\x0c'

/-- The pieces between characters that satisfy `p`. -/
def pieces (p : Char → Bool) : List Char → List (List Char)
  | [] => [[]]
  | c :: cs =>
    if p c then [] :: pieces p cs
    else
      match pieces p cs with
      | [] => [[c]]
      | piece :: rest => (c :: piece) :: rest

/-- Whether a value passes a test, both as they compare. The empty text begins, ends and stands in no
value, and is no word. -/
def passes (fold : String → List Char) (value : List Char) : AttributeTest → Bool
  | .present => true
  | .equal text => value == fold text
  | .word text =>
    !text.isEmpty && !text.toList.any isSpace && (pieces isSpace value).contains (fold text)
  | .dashed text =>
    value == fold text || Chars.startsWith (fold text ++ ['-']) value
  | .starts text => !text.isEmpty && Chars.startsWith (fold text) value
  | .ends text => !text.isEmpty && (Chars.before? (fold text) value).isSome
  | .holds text => !text.isEmpty && Chars.contains (fold text) value

/-- A name as it compares with that of an element. -/
def spelling (n : Name) (s : String) : String :=
  if n.space = .html then Text.asciiLower s else s

/-- The classes of an element. -/
def classes (s : Spot) : List (List Char) :=
  match s.attributes.find? (·.name == "class") with
  | some a => (pieces Chars.isBlank a.value.toList).filter fun piece ↦ !piece.isEmpty
  | none => []

/-- Whether `index` is `step * n + start` for some `n`. -/
def isTerm (step start : Int) (index : Nat) : Bool :=
  let d := (index : Int) - start
  if step = 0 then d == 0 else d % step == 0 && 0 ≤ d / step

/-- The number of an element among its siblings. -/
def place (fromEnd sameName : Bool) (s : Spot) : Nat :=
  let others := if fromEnd then s.elementsAfter else s.elementsBefore
  1 + (if sameName then others.filter fun o ↦ o.name == s.name else others).length

/-- The elements to which an element may stand in a given way. -/
def reach (how : Combinator) (s : Spot) : List Spot :=
  match how with
  | .descendant => s.ancestors
  | .child => s.parent.toList
  | .next => s.elementsBefore.take 1
  | .later => s.elementsBefore

/-- The elements that one sees from an element. -/
def view (following : Bool) (s : Spot) : List Spot :=
  if following then s.elementsAfter.flatMap fun o ↦ o :: o.descendants else s.descendants

mutual

/-- Whether an element passes. The element in which one looks, if any, and the one from which one looks on
are given by their numbers. -/
def passesAt (scope anchor : Option Nat) : Selector → Spot → Bool
  | every, _ => true
  | noLanguage, _ => false
  | type name, s => s.name.text == spelling s.name name
  | id name, s => (s.attributes.find? (·.name == "id")).any (·.value == name)
  | hasClass name, s => (classes s).contains name.toList
  | hasAttribute anywhere name test rule, s =>
    s.attributes.any fun a ↦
      (anywhere || !a.isForeign) && a.name == spelling s.name name &&
        passes (folded rule s.name) (folded rule s.name a.value) test
  | nth fromEnd sameName step start, s => isTerm step start (place fromEnd sameName s)
  | root, s => s.parent.isNone
  | isEmpty, s => s.children.all fun n ↦ !n.isElement && !n.isText
  | Selector.scope, s =>
    match scope with
    | some n => s.serial == n
    | none => s.parent.isNone
  | Selector.anchor, s => anchor == some s.serial
  | all tests, s => passAll scope anchor tests s
  | any tests, s => passAny scope anchor tests s
  | not test, s => !passesAt scope anchor test s
  | behind context how test, s =>
    passesAt scope anchor test s && (reach how s).any fun o ↦ passesAt scope anchor context o
  | has following test, s =>
    (view following s).any fun o ↦ passesAt scope (some s.serial) test o

/-- Whether an element `passesAt` all tests. -/
def passAll (scope anchor : Option Nat) : List Selector → Spot → Bool
  | [], _ => true
  | test :: tests, s => passesAt scope anchor test s && passAll scope anchor tests s

/-- Whether an element `passesAt` some test. -/
def passAny (scope anchor : Option Nat) : List Selector → Spot → Bool
  | [], _ => false
  | test :: tests, s => passesAt scope anchor test s || passAny scope anchor tests s

end

/-- Whether an element `passesAt` its page, without a scope. -/
def matchesOnPage (sel : Selector) (s : Spot) : Bool := sel.passesAt none none s

/-- Whether an element `passesAt` the scope `top`. -/
def matchesBelow (sel : Selector) (top s : Spot) : Bool := sel.passesAt (some top.serial) none s

end Selector

end Gazette
