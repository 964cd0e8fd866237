import Gazette.Json.Printer
import Gazette.Proofs.Json.Grammar

/-!
# Spellings of a value

A value may be written with white space around the items of its lists and the members of its objects. `Spells v
cs` says that `cs` is one of these ways to write `v`; `Json.toChars`, the value on one line, and `Json.toLines`,
the value over several lines, are two of them. What is shown of all spellings holds for both.
-/

namespace Gazette.Json

/-- The comma in front of an item or member, none for the first one. -/
def comma (first : Bool) : List Char := if first then [] else [',']

mutual

/-- `Spells v cs`: the run `cs` is one of the ways to write `v`. -/
inductive Spells : Json → List Char → Prop
  /-- The value `null`. -/
  | null : Spells .null "null".toList
  /-- The value `true`. -/
  | true : Spells (.bool true) "true".toList
  /-- The value `false`. -/
  | false : Spells (.bool false) "false".toList
  /-- A number. -/
  | number (n : Numeral) : Spells (.number n) n.toText
  /-- A text. -/
  | string (s : String) : Spells (.string s) (stringText s)
  /-- A list of values. -/
  | array {items : List Json} {cs behind : List Char} (spelled : SpellsItems Bool.true items cs)
      (space : IsGap behind) : Spells (.array items) ('[' :: cs ++ behind ++ [']'])
  /-- Values under keys. -/
  | object {members : List (String × Json)} {cs behind : List Char}
      (spelled : SpellsMembers Bool.true members cs) (space : IsGap behind) :
      Spells (.object members) ('\x7b' :: cs ++ behind ++ ['\x7d'])

/-- `SpellsItems first items cs`: the ways to write items, with a comma in front of each but the first one of the
list. -/
inductive SpellsItems : Bool → List Json → List Char → Prop
  /-- No items are left. -/
  | nil (first : Bool) : SpellsItems first [] []
  /-- An item in front of others. -/
  | cons {first : Bool} {item : Json} {items : List Json} {gap cs more : List Char} (space : IsGap gap)
      (spelled : Spells item cs) (others : SpellsItems Bool.false items more) :
      SpellsItems first (item :: items) (comma first ++ gap ++ cs ++ more)

/-- `SpellsMembers first members cs`: the ways to write members, with a comma in front of each but the first one
of the object. -/
inductive SpellsMembers : Bool → List (String × Json) → List Char → Prop
  /-- No members are left. -/
  | nil (first : Bool) : SpellsMembers first [] []
  /-- A member in front of others. -/
  | cons {first : Bool} {key : String} {value : Json} {members : List (String × Json)}
      {gap gap' cs more : List Char} (space : IsGap gap) (space' : IsGap gap') (spelled : Spells value cs)
      (others : SpellsMembers Bool.false members more) :
      SpellsMembers first ((key, value) :: members)
        (comma first ++ gap ++ stringText key ++ ':' :: (gap' ++ cs) ++ more)

end

theorem SpellsItems.behindComma {item : Json} {items : List Json} {cs : List Char}
    (h : SpellsItems true (item :: items) cs) : SpellsItems false (item :: items) (',' :: cs) := by
  cases h with
  | cons space spelled others => exact .cons space spelled others

theorem SpellsMembers.behindComma {member : String × Json} {members : List (String × Json)} {cs : List Char}
    (h : SpellsMembers true (member :: members) cs) : SpellsMembers false (member :: members) (',' :: cs) := by
  cases h with
  | cons space space' spelled others => exact .cons space space' spelled others

/-! ## On one line -/

mutual

/-- `toChars` spells the value. -/
theorem spells_toChars : ∀ v : Json, Spells v v.toChars
  | .null => .null
  | .bool true => .true
  | .bool false => .false
  | .number n => .number n
  | .string s => .string s
  | .array items => by
    have spelled := Spells.array (spellsItems_itemsText items) isGap_nil
    rwa [List.append_nil] at spelled
  | .object members => by
    have spelled := Spells.object (spellsMembers_membersText members) isGap_nil
    rwa [List.append_nil] at spelled

/-- `itemsText` spells the items of a list. -/
theorem spellsItems_itemsText : ∀ items : List Json, SpellsItems true items (itemsText items)
  | [] => .nil true
  | [item] => by
    have spelled : SpellsItems true [item] _ := .cons isGap_nil (spells_toChars item) (.nil false)
    rwa [List.append_nil] at spelled
  | item :: other :: items =>
    .cons isGap_nil (spells_toChars item) (spellsItems_itemsText (other :: items)).behindComma

/-- `membersText` spells the members of an object. -/
theorem spellsMembers_membersText :
    ∀ members : List (String × Json), SpellsMembers true members (membersText members)
  | [] => .nil true
  | [(key, value)] => by
    have spelled : SpellsMembers true [(key, value)] _ :=
      .cons isGap_nil isGap_nil (spells_toChars value) (.nil false)
    rwa [List.append_nil] at spelled
  | (_, value) :: other :: members =>
    .cons isGap_nil isGap_nil (spells_toChars value)
      (spellsMembers_membersText (other :: members)).behindComma

end

/-! ## Over several lines -/

theorem isGap_lineBreak (depth : Nat) : IsGap (lineBreak depth) := by
  intro c mem
  rcases List.mem_cons.1 mem with rfl | space
  · rfl
  · rw [List.eq_of_mem_replicate space]
    rfl

theorem isGap_space : IsGap [' '] := by
  intro c mem
  rw [List.mem_singleton.1 mem]
  rfl

mutual

/-- `toLines` spells the value, at any depth. -/
theorem spells_toLines (depth : Nat) : ∀ v : Json, Spells v (v.toLines depth)
  | .null => .null
  | .bool true => .true
  | .bool false => .false
  | .number n => .number n
  | .string s => .string s
  | .array [] => .array (.nil true) isGap_nil
  | .array (item :: items) => .array (spellsItems_itemsLines (depth + 1) (item :: items)) (isGap_lineBreak depth)
  | .object [] => .object (.nil true) isGap_nil
  | .object (member :: members) =>
    .object (spellsMembers_membersLines (depth + 1) (member :: members)) (isGap_lineBreak depth)

/-- `itemsLines` spells the items of a list. -/
theorem spellsItems_itemsLines (depth : Nat) :
    ∀ items : List Json, SpellsItems true items (itemsLines depth items)
  | [] => .nil true
  | [item] => by
    have spelled : SpellsItems true [item] _ :=
      .cons (isGap_lineBreak depth) (spells_toLines depth item) (.nil false)
    rwa [List.append_nil] at spelled
  | item :: other :: items =>
    .cons (isGap_lineBreak depth) (spells_toLines depth item)
      (spellsItems_itemsLines depth (other :: items)).behindComma

/-- `membersLines` spells the members of an object. -/
theorem spellsMembers_membersLines (depth : Nat) :
    ∀ members : List (String × Json), SpellsMembers true members (membersLines depth members)
  | [] => .nil true
  | [(key, value)] => by
    have spelled : SpellsMembers true [(key, value)] _ :=
      .cons (isGap_lineBreak depth) isGap_space (spells_toLines depth value) (.nil false)
    rwa [List.append_nil] at spelled
  | (_, value) :: other :: members =>
    .cons (isGap_lineBreak depth) isGap_space (spells_toLines depth value)
      (spellsMembers_membersLines depth (other :: members)).behindComma

end

end Gazette.Json
