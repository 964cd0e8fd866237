import Gazette.Html.Node

/-!
# Growing a tree

While a page is read, nodes move. They are the `Cell`s of an `Arena`, each with the numbers of its parent and
its children, and `Arena.toDocument` makes them a `Document` in the end.
-/

namespace Gazette.Html

/-- What a node holds. -/
inductive Item
  /-- The page itself. -/
  | page
  /-- An element. -/
  | element (name : Name) (attributes : List Attribute)
  /-- Text. -/
  | text (s : String)
  /-- A comment. -/
  | comment (s : String)
  /-- A document type. -/
  | doctype (name : String)
deriving Inhabited

/-- A node and its place. -/
structure Cell where
  /-- What it holds. -/
  item : Item
  /-- The number of its parent. -/
  parent : Option Nat := none
  /-- The numbers of its children. -/
  children : Array Nat := #[]
deriving Inhabited

/-- Nodes by number; number 0 is the page. -/
abbrev Arena := Array Cell

namespace Arena

/-- The page without anything on it. -/
def start : Arena := #[⟨.page, none, #[]⟩]

/-- The name of an element; of anything else, no name. -/
def name (a : Arena) (id : Nat) : Name :=
  match (a[id]?).map Cell.item with
  | some (.element name _) => name
  | _ => ⟨.html, ""⟩

/-- The attributes of an element. -/
def attributes (a : Arena) (id : Nat) : List Attribute :=
  match (a[id]?).map Cell.item with
  | some (.element _ attributes) => attributes
  | _ => []

/-- The number of the parent. -/
def parent (a : Arena) (id : Nat) : Option Nat := (a[id]?).bind Cell.parent

/-- The numbers of the children. -/
def children (a : Arena) (id : Nat) : Array Nat := ((a[id]?).map Cell.children).getD #[]

def isText (a : Arena) (id : Nat) : Bool :=
  match (a[id]?).map Cell.item with
  | some (.text _) => true
  | _ => false

/-- A new node without a place; its number is the number of nodes before. -/
def create (a : Arena) (item : Item) : Arena := a.push { item }

/-- A node without a place. -/
def detach (a : Arena) (id : Nat) : Arena :=
  match a.parent id with
  | none => a
  | some p =>
    (a.modify p fun c ↦ { c with children := c.children.filter (· ≠ id) }).modify id
      fun c ↦ { c with parent := none }

/-- A node put behind the children of another. -/
def append (a : Arena) (parent id : Nat) : Arena :=
  ((a.detach id).modify parent fun c ↦ { c with children := c.children.push id }).modify id
    fun c ↦ { c with parent := some parent }

def putBefore (row : Array Nat) (sibling id : Nat) : Array Nat :=
  row.flatMap fun n ↦ if n = sibling then #[id, n] else #[n]

/-- A node put in front of another one, by `putBefore`. Where that one has no parent, the node has no place. -/
def insertBefore (a : Arena) (sibling id : Nat) : Arena :=
  let a := a.detach id
  match a.parent sibling with
  | none => a
  | some p =>
    (a.modify p fun c ↦ { c with children := putBefore c.children sibling id }).modify id
      fun c ↦ { c with parent := some p }

def extend (a : Arena) (id : Nat) (s : String) : Arena :=
  a.modify id fun c ↦
    match c.item with
    | .text t => { c with item := .text (t ++ s) }
    | _ => c

/-- Text put behind the children of a node, or by `extend` to the text that is last among them. -/
def appendText (a : Arena) (parent : Nat) (s : String) : Arena :=
  match (a.children parent).back? with
  | some last =>
    if a.isText last then a.extend last s else (a.create (.text s)).append parent a.size
  | none => (a.create (.text s)).append parent a.size

/-- Text put in front of a node, or by `extend` to the text that stands there. -/
def insertTextBefore (a : Arena) (sibling : Nat) (s : String) : Arena :=
  match a.parent sibling with
  | none => a
  | some p =>
    let row := a.children p
    let place := (row.findIdx? (· == sibling)).getD 0
    match if place = 0 then none else row[place - 1]? with
    | some before =>
      if a.isText before then a.extend before s else (a.create (.text s)).insertBefore sibling a.size
    | none => (a.create (.text s)).insertBefore sibling a.size

/-- The children of a node put behind those of another. -/
def moveChildren (a : Arena) (source target : Nat) : Arena :=
  (a.children source).foldl (fun a id ↦ a.append target id) a

/-- An element with `more` attributes, as far as it has none of their names. -/
def addMissing (a : Arena) (id : Nat) (more : List Attribute) : Arena :=
  a.modify id fun c ↦
    match c.item with
    | .element name attributes =>
      { c with item := .element name <| attributes ++
          more.filter fun m ↦ attributes.all fun b ↦ b.name != m.name || b.isForeign }
    | _ => c

/-- The tree below a node. The fuel bounds its height. -/
def toNode (a : Arena) : Nat → Nat → Option Node
  | 0, _ => none
  | fuel + 1, id =>
    match a[id]? with
    | none => none
    | some cell =>
      match cell.item with
      | .page => none
      | .text s => some (.text s)
      | .comment s => some (.comment s)
      | .doctype name => some (.doctype name)
      | .element name attributes =>
        some (.element id name attributes (cell.children.toList.filterMap (toNode a fuel)))

/-- The page: the tree of number 0, by `toNode`. -/
def toDocument (a : Arena) : Document where
  children := (a.children 0).toList.filterMap (a.toNode a.size)
  aside := (List.range a.size).filterMap fun id ↦
    if id = 0 || (a.parent id).isSome || (a.children id).isEmpty then none else a.toNode a.size id

end Arena

end Gazette.Html
