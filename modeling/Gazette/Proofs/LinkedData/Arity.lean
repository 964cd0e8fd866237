import Gazette.Proofs.LinkedData.Entries
import Gazette.Proofs.Text.Keywords
import Mathlib.Logic.Relation

/-!
# Values alone, in lists, and missing

Publishers write one value alone or as the only one of a list, an absent one as `null`, and keywords as a list
or as one text. `Variant` lists these choices for one member of an object. Whatever the other members are, each
choice leads `LinkedData.ofJson` to the same linked data or to the same fault, and so does any number of choices
(`ofJson_eq_of_variants`).
-/

namespace Gazette.LinkedData

open Json

/-- The keys of texts: `headline`, `url` and the other keys that `oneString?` reads. -/
def textKeys : List String :=
  ["@type", "headline", "description", "url", "articleSection", "datePublished", "dateModified"]

/-! ## Values that say the same -/

/-- `Alike key v v'`: the values `v` and `v'` say the same under `key`. -/
inductive Alike : String → Json → Json → Prop
  /-- A thing may stand in a list. -/
  | thing {key : String} (named : key ∈ thingsKeys) (members : List (String × Json)) :
    Alike key (.object members) (.array [.object members])
  /-- A text may be the first one of a list of texts and `null`s. -/
  | text {key : String} (named : key ∈ textKeys) (s : String) {front rest : List Json} (nulls : ∀ v ∈ front, v = .null)
    (others : ∀ v ∈ rest, v = .null ∨ ∃ t, v = .string t) : Alike key (.string s) (.array (front ++ .string s :: rest))
  /-- Keywords may be put together with commas. -/
  | keywords (words : List String) : Alike "keywords" (.strings words) (.string (Text.joinWith "," words))

/-- `oneOrMany thing?` takes a thing in a list as it takes the thing alone. -/
theorem oneOrMany_thing?_singleton (members : List (String × Json)) :
    oneOrMany thing? (.array [.object members]) = oneOrMany thing? (.object members) := by
  have noThing : thing? (.array [.object members]) = none := rfl
  simp only [oneOrMany, noThing, List.mapM_cons, List.mapM_nil]
  cases thing? (.object members) <;> rfl

/-- `oneString?` takes the first text of a list. -/
theorem oneString?_array (s : String) {front rest : List Json} (nulls : ∀ v ∈ front, v = .null)
    (others : ∀ v ∈ rest, v = .null ∨ ∃ t, v = .string t) :
    oneString? (.array (front ++ .string s :: rest)) = oneString? (.string s) := by
  have each : ∀ v ∈ front ++ .string s :: rest, stringOrNull? v = some (string? v) := by
    intro v mem
    rcases List.mem_append.1 mem with mem | mem
    · rw [nulls v mem]
      rfl
    · rcases List.mem_cons.1 mem with rfl | mem
      · rfl
      · rcases others v mem with rfl | ⟨t, rfl⟩ <;> rfl
  have silent : front.filterMap string? = [] := by
    rw [List.filterMap_eq_nil_iff]
    intro v mem
    rw [nulls v mem]
    rfl
  have list := mapM_eq_pure_map each
  simp only [oneString?, oneOrMany, list, Option.pure_def, Option.orElse_some, Option.map_some,
    List.filterMap_map, Function.id_comp, List.filterMap_append, silent, List.nil_append]
  rfl

/-- `keywordsOf` takes a list of texts as the texts with commas between them. -/
theorem keywordsOf_strings (words : List String) :
    keywordsOf (.strings words) = keywordsOf (.string (Text.joinWith "," words)) := by
  rw [strings, keywordsOf, keywordsOf, mapM_eq_pure_map (g := fun v ↦ Text.keywords ((string? v).getD "")),
    List.map_map]
  · exact congrArg Except.ok (Text.keywords_joinWith words).symm
  · intro v mem
    obtain ⟨s, -, rfl⟩ := List.mem_map.1 mem
    rfl

variable {members members' before behind : List (String × Json)} {key : String} {v v' : Json}

/-- `put` does the same with values that are `Alike`. -/
theorem Alike.put_eq (h : Alike key v v') (d : LinkedData) : d.put key v = d.put key v' := by
  cases h with
  | thing named members =>
    simp only [thingsKeys, List.mem_cons, List.not_mem_nil, or_false] at named
    rcases named with rfl | rfl <;> simp [put, oneOrMany_thing?_singleton]
  | text named s nulls others =>
    simp only [textKeys, List.mem_cons, List.not_mem_nil, or_false] at named
    rcases named with rfl | rfl | rfl | rfl | rfl | rfl | rfl <;> simp [put, oneString?_array s nulls others]
  | keywords words => simp [put, keywordsOf_strings]

/-! ## Objects that say the same -/

/-- `Variant members members'`: one member of an object is written in another way. -/
inductive Variant : List (String × Json) → List (String × Json) → Prop
  /-- Its value may be one that says the same. -/
  | value {before behind : List (String × Json)} {key : String} {v v' : Json} (h : Alike key v v') :
    Variant (before ++ (key, v) :: behind) (before ++ (key, v') :: behind)
  /-- With the value `null` it may be missing. -/
  | absent {before behind : List (String × Json)} {key : String} (known : key ∈ keys)
    (lacks : key ∉ (before ++ behind).map Prod.fst) : Variant (before ++ (key, .null) :: behind) (before ++ behind)

/-- `ofJson` does the same with a `Variant`. -/
theorem Variant.ofJson_eq (h : Variant members members') : ofJson (.object members) = ofJson (.object members') := by
  cases h with
  | value h =>
    simp only [ofJson_append, List.foldlM_cons, h.put_eq]
  | @absent before behind key known lacks =>
    rw [ofJson_append, ofJson_append]
    cases made : ofJson (.object before) with
    | error cause => rfl
    | ok d =>
      rw [List.map_append, List.mem_append, not_or] at lacks
      have none : d.put key .null = .ok d := (put_null_eq_iff d key).2 (held?_foldlM lacks.1 made)
      simp only [bind, Except.bind, List.foldlM_cons, none]

/-- `ofJson` makes the same linked data, or fails with the same fault, of objects that come of each other by any
number of `Variant` steps, in either direction. -/
theorem ofJson_eq_of_variants (h : Relation.EqvGen Variant members members') :
    ofJson (.object members) = ofJson (.object members') := by
  induction h with
  | rel _ _ h => exact h.ofJson_eq
  | refl => rfl
  | symm _ _ _ ih => exact ih.symm
  | trans _ _ _ _ _ ih ih' => exact ih.trans ih'

/-- An article with values alone. -/
def aloneMembers : List (String × Json) :=
  [("about", .null), ("author", .object [("name", .string "A")]), ("headline", .string "h"),
    ("keywords", .strings ["k, l", "m"])]

/-- The article `aloneMembers` with its values in lists. -/
def listedMembers : List (String × Json) :=
  [("author", .array [.object [("name", .string "A")]]), ("headline", .array [.null, .string "h", .string "i"]),
    ("keywords", .string "k, l,m")]

/-- `aloneMembers` and `listedMembers` are the same linked data. -/
theorem ofJson_aloneMembers : Relation.EqvGen Variant aloneMembers listedMembers ∧
    ofJson (.object aloneMembers) = ofJson (.object listedMembers) ∧
    (ofJson (.object listedMembers)).toOption =
      some { headline := "h", author := [{ name := "A" }], keywords := ["k", "l", "m"] } := by
  have joined : Text.joinWith "," ["k, l", "m"] = "k, l,m" := by decide +kernel
  have noTopic : Variant aloneMembers (aloneMembers.drop 1) :=
    @Variant.absent [] (aloneMembers.drop 1) "about" (by decide) (by decide)
  have author : Alike "author" _ _ := .thing (by decide) [("name", .string "A")]
  have headline : Alike "headline" _ _ :=
    @Alike.text _ (by decide) "h" [.null] [.string "i"] (by simp) (by simp)
  have keywords : Alike "keywords" _ _ := .keywords ["k, l", "m"]
  rw [joined] at keywords
  have same : Relation.EqvGen Variant aloneMembers listedMembers :=
    .trans _ _ _ (.rel _ _ noTopic) <| .trans _ _ _ (.rel _ _ (@Variant.value [] _ _ _ _ author)) <|
      .trans _ _ _ (.rel _ _ (@Variant.value [_] _ _ _ _ headline)) <|
        .rel _ _ (@Variant.value [_, _] [] _ _ _ keywords)
  exact ⟨same, ofJson_eq_of_variants same, by decide +kernel⟩

end Gazette.LinkedData
