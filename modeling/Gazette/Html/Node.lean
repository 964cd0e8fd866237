import Gazette.Text

/-!
# The tree of a page

A page, a `Document`, is a tree of elements, text, comments and document types: `Node`. Elements carry a serial
number, in the order in which the reader met them; that is nearly, but not always, the order in which they
stand.
-/

namespace Gazette.Html

/-- The languages that elements come from. -/
inductive Namespace
  /-- HTML. -/
  | html
  /-- SVG. -/
  | svg
  /-- MathML. -/
  | mathml
deriving DecidableEq, Repr

/-- The name of an element. -/
structure Name where
  /-- Its language. -/
  space : Namespace
  /-- Its text. -/
  text : String
deriving DecidableEq, Repr

/-- An attribute. -/
structure Attribute where
  /-- Its name. -/
  name : String
  /-- Its value. -/
  value : String
  /-- Whether its name belongs to a language of its own, so that it cannot be asked for. -/
  isForeign : Bool := false
deriving DecidableEq, Repr

/-- A node of a page. -/
inductive Node
  /-- An element. -/
  | element (serial : Nat) (name : Name) (attributes : List Attribute) (children : List Node)
  /-- Text. -/
  | text (s : String)
  /-- A comment. -/
  | comment (s : String)
  /-- A document type. -/
  | doctype (name : String)
deriving Inhabited

namespace Node

def isElement : Node → Bool
  | element .. => true
  | _ => false

def isText : Node → Bool
  | text _ => true
  | _ => false

mutual

/-- All text below a node, or of it, with `charsAmong` its children. -/
def chars : Node → List Char
  | element _ _ _ children => charsAmong children
  | text s => s.toList
  | comment _ => []
  | doctype _ => []

/-- All text of a row of nodes. -/
def charsAmong : List Node → List Char
  | [] => []
  | n :: rest => chars n ++ charsAmong rest

end

end Node

/-- A page. -/
structure Document where
  /-- The nodes at the top. -/
  children : List Node
  /-- Elements that were put aside while reading. They are not part of the page, but what is below them
  can still be found. -/
  aside : List Node

end Gazette.Html
