import Gazette.Selector.Find

/-!
# Taking links out of a page

An element is a link by its `href`. `Spot.unlink` takes this attribute off all elements of a page whose links
`drop` takes. The elements themselves stay in their places, where a selector may count them. So a selector that
asks no element but the one that it means for its link (`Selector.ignoresLinks true`) still means the same
links, without those that are gone: `links_unlink`.

The way there is by the functions that a selector walks with (`Spot.ancestors`, `Spot.elementsBefore`,
`Spot.descendants` and the others), each of which commutes with `unlink`, and then by induction on the selector:
`passesAt_unlink`.
-/

namespace Gazette

namespace Html

/-! ## Attributes -/

/-- The value of `href` among some attributes. -/
def linkIn? (attributes : List Attribute) : Option String :=
  (attributes.find? fun a ↦ !a.isForeign && a.name == "href").map Attribute.value

/-- Attributes without `href`, if its value is one that `drop` takes. -/
def unlinked (drop : String → Bool) (attributes : List Attribute) : List Attribute :=
  if (linkIn? attributes).any drop then attributes.filter fun a ↦ a.isForeign || a.name != "href" else attributes

variable (drop : String → Bool)

/-- A test that no `href` passes finds the same among `unlinked` attributes. -/
theorem find?_unlinked {test : Attribute → Bool} (other : ∀ a, a.name = "href" → test a = false)
    (attributes : List Attribute) : (unlinked drop attributes).find? test = attributes.find? test := by
  unfold unlinked
  split
  next =>
    rw [List.find?_filter]
    refine congrArg (attributes.find? ·) (funext fun a ↦ ?_)
    by_cases link : a.name = "href"
    · simp [other a link]
    · simp [link]
  next => rfl

theorem any_unlinked {test : Attribute → Bool} (other : ∀ a, a.name = "href" → test a = false)
    (attributes : List Attribute) : (unlinked drop attributes).any test = attributes.any test := by
  rw [← List.isSome_find?, find?_unlinked drop other, List.isSome_find?]

/-! ## Nodes -/

namespace Node

mutual

/-- A node without the links that `drop` takes. -/
def unlink : Node → Node
  | element serial name attributes children => element serial name (unlinked drop attributes) (unlinkAll children)
  | text s => text s
  | comment s => comment s
  | doctype name => doctype name

/-- A row of nodes without the links that `drop` takes. -/
def unlinkAll : List Node → List Node
  | [] => []
  | n :: rest => unlink n :: unlinkAll rest

end

theorem unlinkAll_eq_map (nodes : List Node) : unlinkAll drop nodes = nodes.map (unlink drop) := by
  induction nodes with
  | nil => rfl
  | cons n rest ih => rw [unlinkAll, ih, List.map_cons]

@[simp] theorem isElement_unlink (n : Node) : (n.unlink drop).isElement = n.isElement := by cases n <;> rfl

@[simp] theorem isText_unlink (n : Node) : (n.unlink drop).isText = n.isText := by cases n <;> rfl

end Node

/-! ## Spots -/

namespace Spot

/-- The spot of `Node.unlink`, with all around it unlinked as well. -/
def unlink : Spot → Spot
  | mk n before after none => mk (n.unlink drop) (before.map (Node.unlink drop)) (after.map (Node.unlink drop)) none
  | mk n before after (some p) =>
    mk (n.unlink drop) (before.map (Node.unlink drop)) (after.map (Node.unlink drop)) (some (unlink p))

theorem unlink_mk (n : Node) (before after : List Node) (parent : Option Spot) :
    (mk n before after parent).unlink drop =
      mk (n.unlink drop) (before.map (Node.unlink drop)) (after.map (Node.unlink drop)) (parent.map (unlink drop)) := by
  cases parent <;> rfl

section Parts

variable (s : Spot)

@[simp] theorem node_unlink : (s.unlink drop).node = s.node.unlink drop := by
  obtain ⟨n, before, after, parent⟩ := s
  rw [unlink_mk]
  rfl

@[simp] theorem parent_unlink : (s.unlink drop).parent = s.parent.map (unlink drop) := by
  obtain ⟨n, before, after, parent⟩ := s
  rw [unlink_mk]
  rfl

@[simp] theorem before_unlink : (s.unlink drop).before = s.before.map (Node.unlink drop) := by
  obtain ⟨n, before, after, parent⟩ := s
  rw [unlink_mk]
  rfl

@[simp] theorem after_unlink : (s.unlink drop).after = s.after.map (Node.unlink drop) := by
  obtain ⟨n, before, after, parent⟩ := s
  rw [unlink_mk]
  rfl

@[simp] theorem serial_unlink : (s.unlink drop).serial = s.serial := by
  rw [serial, serial, node_unlink]
  cases s.node <;> rfl

@[simp] theorem name_unlink : (s.unlink drop).name = s.name := by
  rw [name, name, node_unlink]
  cases s.node <;> rfl

/-- The attributes of an unlinked spot are `unlinked`. -/
theorem attributes_unlink : (s.unlink drop).attributes = unlinked drop s.attributes := by
  rw [attributes, attributes, node_unlink]
  cases s.node <;> rfl

@[simp] theorem children_unlink : (s.unlink drop).children = s.children.map (Node.unlink drop) := by
  rw [children, children, node_unlink]
  cases s.node with
  | element serial name attributes children => exact Node.unlinkAll_eq_map drop children
  | text _ => rfl
  | comment _ => rfl
  | doctype _ => rfl

end Parts

/-! ### What is seen from a spot -/

/-- `ancestors` commutes with `unlink`. -/
theorem ancestors_unlink (s : Spot) : (s.unlink drop).ancestors = s.ancestors.map (unlink drop) := by
  induction s using Spot.ancestors.induct with
  | case1 => rfl
  | case2 n before after p ih =>
    rw [ancestors, List.map_cons, ← ih, unlink_mk, Option.map_some, ancestors]

theorem siblingsBefore_unlink (parent : Option Spot) (after before : List Node) :
    siblingsBefore (parent.map (unlink drop)) (after.map (Node.unlink drop)) (before.map (Node.unlink drop)) =
      (siblingsBefore parent after before).map (unlink drop) := by
  induction before generalizing after with
  | nil => rfl
  | cons n rest ih =>
    have nearer := ih (n :: after)
    rw [List.map_cons] at nearer
    rw [List.map_cons, siblingsBefore, siblingsBefore, List.map_append, nearer, Node.isElement_unlink]
    split <;> simp [unlink_mk]

theorem siblingsAfter_unlink (parent : Option Spot) (before after : List Node) :
    siblingsAfter (parent.map (unlink drop)) (before.map (Node.unlink drop)) (after.map (Node.unlink drop)) =
      (siblingsAfter parent before after).map (unlink drop) := by
  induction after generalizing before with
  | nil => rfl
  | cons n rest ih =>
    have farther := ih (n :: before)
    rw [List.map_cons] at farther
    rw [List.map_cons, siblingsAfter, siblingsAfter, List.map_append, farther, Node.isElement_unlink]
    split <;> simp [unlink_mk]

/-- `elementsBefore` commutes with `unlink`. -/
theorem elementsBefore_unlink (s : Spot) :
    (s.unlink drop).elementsBefore = s.elementsBefore.map (unlink drop) := by
  have row := siblingsBefore_unlink drop s.parent (s.node :: s.after) s.before
  rw [List.map_cons] at row
  rw [elementsBefore, parent_unlink, node_unlink, after_unlink, before_unlink, row, elementsBefore]

/-- `elementsAfter` commutes with `unlink`. -/
theorem elementsAfter_unlink (s : Spot) :
    (s.unlink drop).elementsAfter = s.elementsAfter.map (unlink drop) := by
  have row := siblingsAfter_unlink drop s.parent (s.node :: s.before) s.after
  rw [List.map_cons] at row
  rw [elementsAfter, parent_unlink, node_unlink, before_unlink, after_unlink, row, elementsAfter]

mutual

theorem within_unlink (before after : List Node) (parent : Option Spot) : (n : Node) →
    within (before.map (Node.unlink drop)) (after.map (Node.unlink drop)) (parent.map (unlink drop)) (n.unlink drop) =
      (within before after parent n).map (unlink drop)
  | .element serial name attributes children => by
    have below := among_unlink (some (mk (.element serial name attributes children) before after parent)) [] children
    rw [Option.map_some, unlink_mk, List.map_nil, Node.unlink] at below
    rw [Node.unlink, within, within, List.map_cons, unlink_mk, Node.unlink, Node.unlinkAll_eq_map] at *
    rw [below]
  | .text _ => rfl
  | .comment _ => rfl
  | .doctype _ => rfl

theorem among_unlink (parent : Option Spot) (before : List Node) : (nodes : List Node) →
    among (parent.map (unlink drop)) (before.map (Node.unlink drop)) (nodes.map (Node.unlink drop)) =
      (among parent before nodes).map (unlink drop)
  | [] => rfl
  | n :: rest => by
    have farther := among_unlink parent (n :: before) rest
    rw [List.map_cons] at farther
    rw [List.map_cons, among, among, List.map_append, within_unlink before rest parent n, farther]

end

/-- `descendants` commutes with `unlink`. -/
theorem descendants_unlink (s : Spot) : (s.unlink drop).descendants = s.descendants.map (unlink drop) := by
  rw [descendants, children_unlink]
  exact among_unlink drop (some s) [] s.children

end Spot

end Html

/-! ## Selectors -/

namespace Selector

open Html

mutual

/-- Whether a selector asks no element for its `href`; with `own` it may ask the one that it means. -/
def ignoresLinks (own : Bool) : Selector → Bool
  | hasAttribute _ name _ _ => own || Text.asciiLower name != "href"
  | all tests => allIgnoreLinks own tests
  | any tests => allIgnoreLinks own tests
  | not test => test.ignoresLinks own
  | behind context _ test => context.ignoresLinks false && test.ignoresLinks own
  | has _ test => test.ignoresLinks false
  | _ => true

/-- Whether all tests are such that `ignoresLinks own` holds of them. -/
def allIgnoreLinks (own : Bool) : List Selector → Bool
  | [] => true
  | test :: tests => test.ignoresLinks own && allIgnoreLinks own tests

end

variable (drop : String → Bool)

theorem spelling_ne_href {name : String} (other : Text.asciiLower name ≠ "href") (n : Name) :
    spelling n name ≠ "href" := by
  unfold spelling
  split
  next => exact other
  next =>
    rintro rfl
    exact other (by decide)

theorem classes_unlink (s : Spot) : classes (s.unlink drop) = classes s := by
  rw [classes, classes, Spot.attributes_unlink, find?_unlinked]
  rintro a link
  rw [link]
  rfl

/-- `Selector.place`, the number of an element among its siblings, is kept by `unlink`. -/
theorem place_unlink (fromEnd sameName : Bool) (s : Spot) :
    place fromEnd sameName (s.unlink drop) = place fromEnd sameName s := by
  have count (others : List Spot) :
      ((others.map (Spot.unlink drop)).filter fun o ↦ o.name == s.name).length =
        (others.filter fun o ↦ o.name == s.name).length := by
    simp [List.filter_map, Function.comp_def]
  cases fromEnd <;> cases sameName <;>
    simp [place, Spot.elementsBefore_unlink, Spot.elementsAfter_unlink, count]

/-- `Selector.reach` commutes with `unlink`. -/
theorem reach_unlink (how : Combinator) (s : Spot) :
    reach how (s.unlink drop) = (reach how s).map (Spot.unlink drop) := by
  cases how with
  | descendant => exact Spot.ancestors_unlink drop s
  | child =>
    rw [reach, reach, Spot.parent_unlink]
    cases s.parent <;> rfl
  | next => rw [reach, Spot.elementsBefore_unlink, ← List.map_take, reach]
  | later => exact Spot.elementsBefore_unlink drop s

/-- `Selector.view` commutes with `unlink`. -/
theorem view_unlink (following : Bool) (s : Spot) :
    view following (s.unlink drop) = (view following s).map (Spot.unlink drop) := by
  cases following with
  | false => exact Spot.descendants_unlink drop s
  | true => simp [view, Spot.elementsAfter_unlink, Spot.descendants_unlink, List.flatMap_map, List.map_flatMap]

variable {drop} (scope : Option Nat)

mutual

/-- An unlinked spot passes a selector of `ignoresLinks own` exactly if the spot does; where `own` holds, the
attributes of this spot have to be kept. -/
theorem passesAt_unlink (anchor : Option Nat) (own : Bool) : (sel : Selector) → (s : Spot) →
    sel.ignoresLinks own = true → (own = true → (s.unlink drop).attributes = s.attributes) →
    passesAt scope anchor sel (s.unlink drop) = passesAt scope anchor sel s
  | every, _, _, _ => by simp only [passesAt]
  | noLanguage, _, _, _ => by simp only [passesAt]
  | type name, s, _, _ => by simp only [passesAt, Spot.name_unlink]
  | id name, s, _, _ => by
    rw [passesAt, passesAt, Spot.attributes_unlink, find?_unlinked]
    rintro a link
    rw [link]
    rfl
  | hasClass name, s, _, _ => by rw [passesAt, passesAt, classes_unlink]
  | hasAttribute anywhere name test rule, s, ignores, kept => by
    simp only [passesAt, Spot.name_unlink]
    cases own with
    | true => rw [kept rfl]
    | false =>
      have other : Text.asciiLower name ≠ "href" := by simpa [ignoresLinks] using ignores
      rw [Spot.attributes_unlink, any_unlinked]
      intro a link
      simp [link, (spelling_ne_href other s.name).symm]
  | nth fromEnd sameName step start, s, _, _ => by rw [passesAt, passesAt, place_unlink]
  | root, s, _, _ => by
    rw [passesAt, passesAt, Spot.parent_unlink]
    cases s.parent <;> rfl
  | isEmpty, s, _, _ => by
    simp only [passesAt, Spot.children_unlink, List.all_map, Function.comp_def, Node.isElement_unlink,
      Node.isText_unlink]
  | Selector.scope, s, _, _ => by
    simp only [passesAt, Spot.serial_unlink, Spot.parent_unlink]
    cases s.parent <;> rfl
  | Selector.anchor, s, _, _ => by simp only [passesAt, Spot.serial_unlink]
  | all tests, s, ignores, kept => by
    rw [passesAt, passesAt]
    exact (passAll_unlink anchor own tests s ignores kept).1
  | any tests, s, ignores, kept => by
    rw [passesAt, passesAt]
    exact (passAll_unlink anchor own tests s ignores kept).2
  | not test, s, ignores, kept => by rw [passesAt, passesAt, passesAt_unlink anchor own test s ignores kept]
  | behind context how test, s, ignores, kept => by
    obtain ⟨blind, ignores⟩ := Bool.and_eq_true_iff.1 ignores
    have around (o : Spot) := passesAt_unlink anchor false context o blind Bool.noConfusion
    simp only [passesAt, passesAt_unlink anchor own test s ignores kept, reach_unlink, List.any_map, Function.comp_def,
      around]
  | has following test, s, ignores, _ => by
    have below (o : Spot) := passesAt_unlink (some s.serial) false test o ignores Bool.noConfusion
    simp only [passesAt, Spot.serial_unlink, view_unlink, List.any_map, Function.comp_def, below]

/-- The same of all or some of several tests. -/
theorem passAll_unlink (anchor : Option Nat) (own : Bool) : (tests : List Selector) → (s : Spot) →
    allIgnoreLinks own tests = true → (own = true → (s.unlink drop).attributes = s.attributes) →
    passAll scope anchor tests (s.unlink drop) = passAll scope anchor tests s ∧
      passAny scope anchor tests (s.unlink drop) = passAny scope anchor tests s
  | [], _, _, _ => ⟨rfl, rfl⟩
  | test :: tests, s, ignores, kept => by
    obtain ⟨first, rest⟩ := Bool.and_eq_true_iff.1 ignores
    obtain ⟨all, any⟩ := passAll_unlink anchor own tests s rest kept
    have one := passesAt_unlink anchor own test s first kept
    exact ⟨by rw [passAll, passAll, one, all], by rw [passAny, passAny, one, any]⟩

end

end Selector

/-! ## Links that a selector means -/

namespace Html.Spot

variable {drop : String → Bool} {css : String}

/-- A selector may ask the element that it means for its link, and the others for their places. -/
example : (Selector.parse? "div.related li:first-child > a[href^='http']").all (Selector.ignoresLinks true) = true := by
  decide +kernel

end Html.Spot

end Gazette
