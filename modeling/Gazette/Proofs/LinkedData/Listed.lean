import Gazette.Proofs.LinkedData.Entries

/-!
# Things in lists

`oneOrMany thing?` reads a list under a key of things in two ways: as a list of things or, if one of its items
is none, as the values of a single thing. The first value of a thing is its identifier, a string, and a string
is no thing. So it is the first item that decides: behind a string the items are folded into one thing, else
there is one thing for each item (`forall₂_thing?_iff`).
-/

namespace Gazette.LinkedData

open Json

variable {α : Type} {item : Json → Option α} {items : List Json} {list : List α}

/-- `oneOrMany item` reads a list item by item or, if this fails, as one value. -/
theorem oneOrMany_array_eq_some_iff : oneOrMany item (.array items) = some list ↔
    items.mapM item = some list ∨ items.mapM item = none ∧ ∃ x, item (.array items) = some x ∧ list = [x] := by
  rw [oneOrMany]
  cases items.mapM item with
  | some many => simp
  | none => cases item (.array items) <;> simp [eq_comm]

/-- A list that `thing?` takes has a string in front. -/
theorem exists_string_of_thing?_array {t : Thing} (nonempty : items ≠ []) (one : thing? (.array items) = some t) :
    ∃ s, items.head? = some (.string s) := by
  cases items with
  | nil => exact absurd rfl nonempty
  | cons v items =>
    have fits := (isSome_thing?_array_iff.1 (Option.isSome_of_mem one)).2 ("@id", v) List.mem_cons_self
    cases v with
    | string s => exact ⟨s, rfl⟩
    | _ => cases fits.id rfl

/-- A list of which `thing?` takes all items has no string in front. -/
theorem head?_ne_string {things : List Thing} (many : List.Forall₂ (fun v t ↦ thing? v = some t) items things)
    (s : String) : items.head? ≠ some (.string s) := by
  cases many with
  | nil => nofun
  | cons first _ =>
    rintro ⟨⟩
    cases first

variable {members : List (String × Json)} {key : String} {v : Json} {d : LinkedData}

/-- What is held under one of `thingsKeys` is `oneOrMany thing?` of the last value under the key. -/
theorem exists_held?_things (named : key ∈ thingsKeys) (made : ofJson (.object members) = .ok d)
    (last : lastValue? key members = some v) :
    ∃ list, oneOrMany thing? v = some list ∧ d.held? key = some (.things list) := by
  obtain ⟨behind, before, row, others⟩ := List.lookup_eq_some_iff.1 last
  obtain rfl : members = before.reverse ++ (key, v) :: behind.reverse := by simpa using congrArg List.reverse row
  rw [ofJson_append] at made
  obtain ⟨d₁, -, made⟩ := exists_of_bind made
  obtain ⟨d₂, here, made⟩ := exists_of_bind made
  obtain ⟨list, read, held⟩ := held?_put_things named here
  have lacks : key ∉ behind.reverse.map Prod.fst := by
    intro mem
    obtain ⟨m, mem, same⟩ := List.mem_map.1 mem
    simpa [same] using others m (List.mem_reverse.1 mem)
  exact ⟨list, read, (held?_foldlM lacks made).trans held⟩

/-- The things that are held of a list are the `thing?` of its items, one by one, exactly unless its first item is
a string. Behind a string, all items are the values of one thing. -/
theorem forall₂_thing?_iff (named : key ∈ thingsKeys) (made : ofJson (.object members) = .ok d)
    (last : lastValue? key members = some (.array items)) :
    ∃ list, d.held? key = some (.things list) ∧
      (List.Forall₂ (fun item t ↦ thing? item = some t) items list ↔ ∀ s, items.head? ≠ some (.string s)) ∧
      ∀ s, items.head? = some (.string s) → ∃ t, list = [t] ∧ thing? (.array items) = some t := by
  obtain ⟨list, read, held⟩ := exists_held?_things named made last
  refine ⟨list, held, ?_⟩
  rcases oneOrMany_array_eq_some_iff.1 read with many | ⟨none, t, one, rfl⟩
  · have each := mapM_eq_some_iff.1 many
    exact ⟨⟨fun _ ↦ head?_ne_string each, fun _ ↦ each⟩, fun s first ↦ absurd first (head?_ne_string each s)⟩
  · have nonempty : items ≠ [] := by
      rintro rfl
      cases none
    obtain ⟨s, first⟩ := exists_string_of_thing?_array nonempty one
    exact ⟨⟨head?_ne_string, fun other ↦ absurd first (other s)⟩, fun _ _ ↦ ⟨t, rfl, one⟩⟩

/-- An article that lists the names of its authors. -/
def namedMembers : List (String × Json) := [("author", .strings ["A", "B", "C"])]

/-- The one author that is made of the three names in `namedMembers`. -/
def foldedAuthor : Thing := { id := "A", kind := "B", name := "C" }

/-- The three names in `namedMembers` are folded into one author. -/
theorem exists_held?_namedMembers : "author" ∈ thingsKeys ∧
    ofJson (.object namedMembers) = .ok { author := [foldedAuthor] } ∧
    lastValue? "author" namedMembers = some (.strings ["A", "B", "C"]) ∧
    ∃ list, ({ author := [foldedAuthor] } : LinkedData).held? "author" = some (.things list) ∧
      ¬ List.Forall₂ (fun item t ↦ thing? item = some t) (["A", "B", "C"].map .string) list := by
  have named : "author" ∈ thingsKeys := by decide
  have made : ofJson (.object namedMembers) = .ok { author := [foldedAuthor] } := rfl
  obtain ⟨list, held, each, -⟩ := forall₂_thing?_iff named made rfl
  exact ⟨named, made, rfl, list, held, fun many ↦ each.1 many "A" rfl⟩

/-- So not all lists are read item by item. -/
theorem not_forall_forall₂_thing? : ¬ ∀ key members d items, key ∈ thingsKeys →
    ofJson (.object members) = .ok d → lastValue? key members = some (.array items) →
    ∃ list, d.held? key = some (.things list) ∧ list.length = items.length ∧
      List.Forall₂ (fun item t ↦ thing? item = some t) items list := by
  intro claim
  obtain ⟨list, held, same, -⟩ := claim "author" namedMembers { author := [foldedAuthor] } _ (by decide) rfl rfl
  cases held
  cases same

end Gazette.LinkedData
