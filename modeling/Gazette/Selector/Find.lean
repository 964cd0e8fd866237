import Gazette.Selector.Reader

/-!
# Finding elements

Elements are asked for by the text of a selector: `Document.all` on a page, `Spot.all` below an element. A text
that `Selector.parse?` cannot read finds nothing.
-/

namespace Gazette.Html

/-- The `descendants` of a spot that a selector means, in the order in which they stand. -/
def Spot.all (s : Spot) (css : String) : List Spot :=
  match Selector.parse? css with
  | some sel => s.descendants.filter (sel.matchesBelow s)
  | none => []

/-- The first of `Spot.all`. -/
def Spot.first? (s : Spot) (css : String) : Option Spot := (s.all css).head?

/-- Whether `Spot.first?` finds an element. -/
def Spot.holds (s : Spot) (css : String) : Bool := (s.first? css).isSome

/-- The `spots` of a page that a selector means, in the order in which the reader met them. -/
def Document.all (d : Document) (css : String) : List Spot :=
  match Selector.parse? css with
  | some sel => d.spots.filter sel.matchesOnPage
  | none => []

/-- The first of `Document.all`. -/
def Document.first? (d : Document) (css : String) : Option Spot := (d.all css).head?

end Gazette.Html
