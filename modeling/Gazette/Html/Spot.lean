import Gazette.Html.Node

/-!
# Elements where they stand

A `Spot` is a node together with what stands around it: the nodes in front of it and behind it, and the spot of
its parent. From a spot one sees all that a selector may ask about. The spots of a page are `Document.spots`.
-/

namespace Gazette.Html

/-- A node where it stands. -/
inductive Spot
  /-- A node, the nodes in front of it, the nearest first, those behind it, and the spot of its parent,
  where that is an element. -/
  | mk (node : Node) (before after : List Node) (parent : Option Spot)
deriving Inhabited

namespace Spot

/-- The node. -/
def node : Spot → Node
  | mk n _ _ _ => n

/-- The nodes in front of it, the nearest first. -/
def before : Spot → List Node
  | mk _ b _ _ => b

/-- The nodes behind it. -/
def after : Spot → List Node
  | mk _ _ a _ => a

/-- The spot of its parent. -/
def parent : Spot → Option Spot
  | mk _ _ _ p => p

/-- The spots of the elements around it, the innermost first. -/
def ancestors : Spot → List Spot
  | mk _ _ _ none => []
  | mk _ _ _ (some p) => p :: ancestors p

/-- The serial number of an element. -/
def serial (s : Spot) : Nat :=
  match s.node with
  | .element n _ _ _ => n
  | _ => 0

def name (s : Spot) : Name :=
  match s.node with
  | .element _ n _ _ => n
  | _ => ⟨.html, ""⟩

def attributes (s : Spot) : List Attribute :=
  match s.node with
  | .element _ _ a _ => a
  | _ => []

def children (s : Spot) : List Node :=
  match s.node with
  | .element _ _ _ c => c
  | _ => []

/-- The value of an attribute. -/
def attribute? (s : Spot) (name : String) : Option String :=
  (s.attributes.find? fun a ↦ !a.isForeign && a.name == name).map Attribute.value

/-- All text below a spot. -/
def text (s : Spot) : String := String.ofList s.node.chars

/-- The spots of the elements in front of it, the nearest first. The argument is what is left of the nodes
in front, and what is behind them. -/
def siblingsBefore (parent : Option Spot) (after : List Node) : List Node → List Spot
  | [] => []
  | n :: rest =>
    (if n.isElement then [mk n rest after parent] else []) ++ siblingsBefore parent (n :: after) rest

/-- The spots of the elements in front of it, the nearest first, by `siblingsBefore`. -/
def elementsBefore (s : Spot) : List Spot := siblingsBefore s.parent (s.node :: s.after) s.before

/-- The spots of the elements behind it, given the nodes in front of what is left. -/
def siblingsAfter (parent : Option Spot) (before : List Node) : List Node → List Spot
  | [] => []
  | n :: rest =>
    (if n.isElement then [mk n before rest parent] else []) ++ siblingsAfter parent (n :: before) rest

/-- The spots of the elements behind it, by `siblingsAfter`. -/
def elementsAfter (s : Spot) : List Spot := siblingsAfter s.parent (s.node :: s.before) s.after

mutual

/-- The spots of an element and of all elements `among` its children, in the order in which they stand. -/
def within (before after : List Node) (parent : Option Spot) : Node → List Spot
  | .element serial name attributes children =>
    let s := mk (.element serial name attributes children) before after parent
    s :: among (some s) [] children
  | .text _ => []
  | .comment _ => []
  | .doctype _ => []

/-- The spots of all elements of a row of nodes and below them, in the order in which they stand. -/
def among (parent : Option Spot) (before : List Node) : List Node → List Spot
  | [] => []
  | n :: rest => within before rest parent n ++ among parent (n :: before) rest

end

/-- The spots of all elements below a spot, in the order in which they stand: those `among` its children. -/
def descendants (s : Spot) : List Spot := among (some s) [] s.children

end Spot

namespace Document

/-- The spots of all elements that can be found in a page, in the order of their `serial`, which is that in which
the reader met them. -/
def spots (d : Document) : List Spot :=
  (Spot.among none [] d.children ++
    d.aside.flatMap fun n ↦ (Spot.within [] [] none n).drop 1).mergeSort
      fun a b ↦ a.serial ≤ b.serial

/-- The spot of the outermost element. -/
def root? (d : Document) : Option Spot :=
  (Spot.siblingsAfter none [] d.children).head?

/-- The language that the outermost element, `root?`, names in `lang`, if it names any. -/
def language? (d : Document) : Option String :=
  match (d.root?.bind (·.attribute? "lang")).map Text.trim with
  | some lang => if lang.isEmpty then none else some lang
  | none => none

end Document

end Gazette.Html
