import Gazette.Selector.Find

/-!
# Walking around a tree

Walking around a tree one comes to each node twice, before and after all that is below it: `Spot.edges`.
`Spot.textWithout` gathers the text of a tree without some of its parts on one such walk, counting in
`Gathering.step` how deep one is in a part to leave out.
-/

namespace Gazette.Html

/-- A step of the walk. -/
inductive Edge
  /-- One comes to a node. -/
  | enter (spot : Spot)
  /-- One leaves a node. -/
  | leave (spot : Spot)

mutual

/-- The walk around a node, where it stands, with `edgesAmong` its children. -/
def edgesOf (before after : List Node) (parent : Option Spot) : Node → List Edge
  | .element serial name attributes children =>
    let s := Spot.mk (.element serial name attributes children) before after parent
    .enter s :: (edgesAmong (some s) [] children ++ [.leave s])
  | .text t => let s := Spot.mk (.text t) before after parent; [.enter s, .leave s]
  | .comment t => let s := Spot.mk (.comment t) before after parent; [.enter s, .leave s]
  | .doctype t => let s := Spot.mk (.doctype t) before after parent; [.enter s, .leave s]

/-- The walk around a row of nodes. -/
def edgesAmong (parent : Option Spot) (before : List Node) : List Node → List Edge
  | [] => []
  | n :: rest => edgesOf before rest parent n ++ edgesAmong parent (n :: before) rest

end

/-- The walk around the tree of a spot, by `edgesOf`. -/
def Spot.edges (s : Spot) : List Edge := edgesOf s.before s.after s.parent s.node

/-- What one has on the way. -/
structure Gathering where
  /-- How many elements one is in, counted from one that is left out. -/
  depth : Nat := 0
  /-- The text so far. -/
  text : List Char := []

/-- One step of the walk. Elements that `skips` are left out. -/
def Gathering.step (skips : Spot → Bool) (g : Gathering) : Edge → Gathering
  | .enter s =>
    if 0 < g.depth then
      if s.node.isElement then { g with depth := g.depth + 1 } else g
    else if s.node.isElement && skips s then { g with depth := 1 }
    else match s.node with
      | .text t => { g with text := g.text ++ t.toList }
      | _ => g
  | .leave s =>
    if 0 < g.depth && s.node.isElement then { g with depth := g.depth - 1 } else g

/-- All text below a spot except that in elements below it that one of the selectors means, by `Gathering.step`
over the `edges`. What `Selector.parse?` cannot read means nothing. -/
def Spot.textWithout (s : Spot) (excluded : List String) : String :=
  let selectors := excluded.filterMap Selector.parse?
  let skips (o : Spot) : Bool := o.serial != s.serial && selectors.any (·.matchesOnPage o)
  String.ofList (s.edges.foldl (Gathering.step skips) {}).text

end Gazette.Html
