import Gazette.Text

/-!
# Writing selectors

The text of a selector for an element that lies below others (`Path.text`), from what is asked of each of them
(`Compound`).
-/

namespace Gazette.Selector

/-- What is asked of one element. What is empty asks nothing. -/
structure Compound where
  /-- The name. -/
  type : String := ""
  /-- The identifier. -/
  id : String := ""
  /-- The classes. -/
  classes : List String := []
  /-- Attributes and their values. -/
  attributes : List (String × String) := []
deriving DecidableEq, Repr

/-- The text that asks it. -/
def Compound.text (c : Compound) : String :=
  c.type ++ (if c.id.isEmpty then "" else "#" ++ c.id) ++
    Text.concat (c.classes.map fun name ↦ "." ++ name) ++
    Text.concat (c.attributes.map fun (name, value) ↦ "[" ++ name ++ "='" ++ value ++ "']")

/-- Elements below one another, the outermost first. -/
abbrev Path := List Compound

namespace Path

def below (path : Path) (c : Compound) : Path := path ++ [c]

/-- A path that asks its end for an identifier. -/
def withId (path : Path) (id : String) : Path :=
  match path.getLast? with
  | some last => path.dropLast ++ [{ last with id := id }]
  | none => path

/-- The text of a path: that of every `Compound`, with spaces between them. -/
def text (path : Path) : String := Text.joinWith " " (path.map Compound.text)

end Path

end Gazette.Selector
