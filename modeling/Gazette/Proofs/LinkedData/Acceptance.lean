import Gazette.LinkedData.Basic
import Gazette.Proofs.Failure.Issues
import Gazette.Proofs.Json.Renaming

/-!
# What linked data are decoded from

`LinkedData.ofJson` decodes an object exactly if the values of its known keys are of types that these keys take
(`Fits`), each key with the last value that it has in the text (`lastValue?`). Whether a member fits does not
depend on the others, so if one member of a decodable object changes, only this member is in question, and those
that it takes the place of or lets come forward (`forall_lastValue?_key_iff`). Values that are `Json.Renamed`
below their top fit as before (`Renamed.fits`).
-/

namespace Gazette

/-! ## The members that stay -/

namespace Table

variable {α : Type}

/-- The `entries` of a table are what `get?` answers. -/
theorem mem_entries_iff {t : Table α} {e : String × α} : e ∈ t.entries ↔ t.get? e.1 = some e.2 := by
  obtain ⟨entries, sorted⟩ := t
  unfold get?
  dsimp only
  induction entries with
  | nil => simp
  | cons hd tl ih =>
    obtain ⟨before, rest⟩ := List.pairwise_cons.1 sorted
    rw [List.mem_cons, ih rest, lookup_cons]
    constructor
    · rintro (rfl | found)
      · exact if_pos rfl
      · have other : e.1 ≠ hd.1 := by
          intro same
          rw [same, lookup_eq_none_of_forall_lt before] at found
          cases found
        rw [if_neg other, found]
    · intro found
      split at found
      next same => exact .inl (Prod.ext same (Option.some.inj found).symm)
      next => exact .inr found

/-- After `Table.insertAll` the last entry of each key stays. -/
theorem get?_insertAll_reverse (t : Table α) (entries : List (String × α)) (key : String) :
    (t.insertAll entries).get? key = (entries.reverse.lookup key).or (t.get? key) := by
  induction entries generalizing t with
  | nil => rfl
  | cons hd tl ih =>
    have filled : (t.insertAll (hd :: tl)).get? key = ((t.insert hd.1 hd.2).insertAll tl).get? key := rfl
    rw [filled, ih, get?_insert, List.reverse_cons, List.lookup_append, lookup_cons, Option.or_assoc]
    split <;> rfl

end Table

namespace Json

/-- The value that stays under a key: the last one. -/
def lastValue? (key : String) (members : List (String × Json)) : Option Json := members.reverse.lookup key

variable {before behind members : List (String × Json)} {key old new : String} {v v' : Json}

/-- A member takes the place of those of its key in front of it and gives way to those behind it. -/
theorem lastValue?_append_cons (m : String × Json) :
    lastValue? key (before ++ m :: behind) =
      (lastValue? key behind).or (if key = m.1 then some m.2 else lastValue? key before) := by
  unfold lastValue?
  rw [List.reverse_append, List.reverse_cons, List.append_assoc, List.singleton_append, List.lookup_append,
    Table.lookup_cons]

theorem insert_eq_insertEntry (key : String) (v : Json) (members : List (String × Json)) :
    insert key v members = insertEntry key v members := by
  induction members with
  | nil => rfl
  | cons hd tl ih => simp only [insert, insertEntry, ih]

/-- `ofMembers` is the object of the `Table` of the members. -/
theorem ofMembers_eq (members : List (String × Json)) : ofMembers members = .object (Table.ofList members).entries := by
  have filled (t : Table Json) :
      members.foldl (fun sorted m ↦ insert m.1 m.2 sorted) t.entries = (t.insertAll members).entries := by
    induction members generalizing t with
    | nil => rfl
    | cons hd tl ih =>
      rw [List.foldl_cons, insert_eq_insertEntry]
      exact ih (t.insert hd.1 hd.2)
  exact congrArg Json.object (filled .empty)

/-- The members of an object are those that `lastValue?` gives. -/
theorem mem_ofList_iff {m : String × Json} :
    m ∈ (Table.ofList members).entries ↔ lastValue? m.1 members = some m.2 := by
  rw [Table.mem_entries_iff, Table.ofList, Table.get?_insertAll_reverse, Table.get?_empty, Option.or_none]
  rfl

variable {P : String → Json → Prop}

/-- If a value gives way to one that is as good, what holds of all values of `lastValue?` still holds. -/
theorem forall_lastValue?_value (mono : P key v → P key v')
    (h : ∀ k w, lastValue? k (before ++ (key, v) :: behind) = some w → P k w) :
    ∀ k w, lastValue? k (before ++ (key, v') :: behind) = some w → P k w := by
  intro k w last
  have good := h k
  rw [lastValue?_append_cons] at last
  simp only [lastValue?_append_cons] at good
  cases later : lastValue? k behind with
  | some u =>
    rw [later] at last good
    exact good w last
  | none =>
    rw [later, Option.none_or] at last
    simp only [later, Option.none_or] at good
    split at last
    next same =>
      cases last
      subst same
      exact mono (good v (if_pos rfl))
    next other => exact good w ((if_neg other).trans last)

/-- If the key of a member changes, what holds of all values of `lastValue?` still holds exactly if it holds of
the value under the new key, and of the one that comes forward under the old key, unless other values take their
places. -/
theorem forall_lastValue?_key_iff (ne : old ≠ new)
    (h : ∀ k w, lastValue? k (before ++ (old, v) :: behind) = some w → P k w) :
    (∀ k w, lastValue? k (before ++ (new, v) :: behind) = some w → P k w) ↔
      ((lastValue? new behind).isSome ∨ P new v) ∧
      ((lastValue? old behind).isSome ∨ ∀ w, lastValue? old before = some w → P old w) := by
  simp only [lastValue?_append_cons] at h ⊢
  constructor
  · intro good
    constructor
    · cases later : lastValue? new behind with
      | some u => exact .inl rfl
      | none => exact .inr (good new v (by simp [later]))
    · cases later : lastValue? old behind with
      | some u => exact .inl rfl
      | none => exact .inr fun w earlier ↦ good old w (by simp [later, ne, earlier])
  · rintro ⟨forNew, forOld⟩ k w last
    cases later : lastValue? k behind with
    | some u => exact h k w (by simpa [later] using last)
    | none =>
      by_cases isNew : k = new
      · subst isNew
        obtain rfl : v = w := by simpa [later] using last
        exact forNew.resolve_left (by simp [later])
      · by_cases isOld : k = old
        · subst isOld
          have earlier : lastValue? k before = some w := by simpa [later, isNew] using last
          exact (forOld.resolve_left (by simp [later])) w earlier
        · exact h k w (by simpa [later, isNew, isOld] using last)

end Json

/-! ## Lists of which one item changes -/

theorem forall_mem_zip {α : Type} {P : String → α → Prop} {before behind : List α} {a a' : α}
    (mono : ∀ k, P k a → P k a') {keys : List String} (h : ∀ p ∈ keys.zip (before ++ a :: behind), P p.1 p.2) :
    ∀ p ∈ keys.zip (before ++ a' :: behind), P p.1 p.2 := by
  induction before generalizing keys with
  | nil =>
    cases keys with
    | nil => exact fun _ mem ↦ absurd mem List.not_mem_nil
    | cons k keys =>
      obtain ⟨here, later⟩ := List.forall_mem_cons.1 h
      exact List.forall_mem_cons.2 ⟨mono k here, later⟩
  | cons b before ih =>
    cases keys with
    | nil => exact fun _ mem ↦ absurd mem List.not_mem_nil
    | cons k keys =>
      obtain ⟨here, later⟩ := List.forall_mem_cons.1 h
      exact List.forall_mem_cons.2 ⟨here, ih later⟩

namespace LinkedData

open Json

/-! ## Values that fit -/

/-- `FitsThing key v`: the key `key` of a thing takes the value `v`. A key that is none of a thing takes all. -/
structure FitsThing (key : String) (v : Json) : Prop where
  /-- An identifier is a string. -/
  id : key = "@id" → (string? v).isSome
  /-- Type and names are single values. -/
  single : key ∈ ["@type", "name", "alternateName"] → (oneString? v).isSome
  /-- Addresses elsewhere are strings, one or many. -/
  addresses : key = "sameAs" → (oneOrMany string? v).isSome

/-- `Fits key v`: the key `key` of linked data takes the value `v`. A key that is none of linked data takes
all. -/
structure Fits (key : String) (v : Json) : Prop where
  /-- Texts are single values. -/
  single : key ∈ ["@type", "headline", "description", "url", "articleSection", "datePublished", "dateModified"] →
    (oneString? v).isSome
  /-- Authors and topics are things, one or many. -/
  things : key ∈ ["author", "about"] → (oneOrMany thing? v).isSome
  /-- Keywords are strings with commas, one or many. -/
  keywords : key = "keywords" → ∃ list, keywordsOf v = .ok list

/-- `oneOrMany item` takes a list of which `item` takes all items, a single value that `item` takes, or `null`. -/
theorem isSome_oneOrMany_iff {α : Type} {item : Json → Option α} {v : Json} : (oneOrMany item v).isSome ↔
    (∃ items, v = .array items ∧ ∀ x ∈ items, (item x).isSome) ∨ (item v).isSome ∨ v = .null := by
  have listed {items : List Json} : (∃ items', Json.array items = .array items' ∧ ∀ x ∈ items', (item x).isSome) ↔
      (items.mapM item).isSome := by
    rw [isSome_mapM_iff]
    constructor
    · rintro ⟨_, ⟨⟩, all⟩
      exact all
    · exact fun all ↦ ⟨items, rfl, all⟩
  unfold oneOrMany
  cases v with
  | array items =>
    rw [listed]
    cases all : items.mapM item <;> cases item (.array items) <;> simp [all]
  | null => cases item .null <;> simp
  | bool b => cases item (.bool b) <;> simp
  | number n => cases item (.number n) <;> simp
  | string s => cases item (.string s) <;> simp
  | object members => cases item (.object members) <;> simp

theorem exists_accepted_iff {α β : Type} {o : Option α} {f : α → β} :
    (∃ b, f <$> accepted o = .ok b) ↔ o.isSome := by
  cases o with
  | none => exact ⟨by rintro ⟨b, ⟨⟩⟩, by simp⟩
  | some a => exact ⟨fun _ ↦ rfl, fun _ ↦ ⟨f a, rfl⟩⟩

/-- `put` takes a member exactly if it `Fits`. -/
theorem exists_put_iff (d : LinkedData) (key : String) (v : Json) : (∃ d', d.put key v = .ok d') ↔ Fits key v := by
  have fits_iff : Fits key v ↔ (key ∈ ["@type", "headline", "description", "url", "articleSection", "datePublished",
      "dateModified"] → (oneString? v).isSome) ∧ (key ∈ ["author", "about"] → (oneOrMany thing? v).isSome) ∧
      (key = "keywords" → ∃ list, keywordsOf v = .ok list) :=
    ⟨fun h ↦ ⟨h.single, h.things, h.keywords⟩, fun ⟨single, things, keywords⟩ ↦ ⟨single, things, keywords⟩⟩
  rw [fits_iff]
  by_cases known : key ∈ keys
  · simp only [keys, List.mem_cons, List.not_mem_nil, or_false] at known
    rcases known with rfl | rfl | rfl | rfl | rfl | rfl | rfl | rfl | rfl | rfl
    case inr.inr.inr.inr.inr.inr.inr.inl =>
      cases taken : keywordsOf v <;> simp [put, taken, bind, Except.bind, pure, Except.pure]
    all_goals simp [put, exists_accepted_iff]
  · simp only [keys, List.mem_cons, List.not_mem_nil, or_false, not_or] at known
    simp [put, known, pure, Except.pure]

/-- `putThing` takes a member exactly if it `FitsThing`. -/
theorem isSome_putThing_iff (t : Thing) (key : String) (v : Json) : (putThing t key v).isSome ↔ FitsThing key v := by
  have fits_iff : FitsThing key v ↔ (key = "@id" → (string? v).isSome) ∧
      (key ∈ ["@type", "name", "alternateName"] → (oneString? v).isSome) ∧
      (key = "sameAs" → (oneOrMany string? v).isSome) :=
    ⟨fun h ↦ ⟨h.id, h.single, h.addresses⟩, fun ⟨id, single, addresses⟩ ↦ ⟨id, single, addresses⟩⟩
  rw [fits_iff]
  by_cases known : key ∈ thingKeys
  · simp only [thingKeys, List.mem_cons, List.not_mem_nil, or_false] at known
    rcases known with rfl | rfl | rfl | rfl | rfl <;> simp [putThing]
  · simp only [thingKeys, List.mem_cons, List.not_mem_nil, or_false, not_or] at known
    simp [putThing, known]

variable {members : List (String × Json)} {items : List Json} {key : String} {v v' : Json}

/-- `thing?` takes an object exactly if each `lastValue?` in it `FitsThing`. -/
theorem isSome_thing?_ofMembers_iff :
    (thing? (ofMembers members)).isSome ↔ ∀ key v, lastValue? key members = some v → FitsThing key v := by
  rw [ofMembers_eq, thing?]
  refine (isSome_foldlM_iff (fun t m ↦ isSome_putThing_iff t m.1 m.2) {}).trans ?_
  constructor
  · exact fun h key v last ↦ h (key, v) (mem_ofList_iff.2 last)
  · exact fun h m mem ↦ h m.1 m.2 (mem_ofList_iff.1 mem)

/-- `thing?` takes a list exactly if it is not longer than `thingKeys` and each value `FitsThing` under the key at
its place. -/
theorem isSome_thing?_array_iff : (thing? (.array items)).isSome ↔
    items.length ≤ thingKeys.length ∧ ∀ p ∈ thingKeys.zip items, FitsThing p.1 p.2 := by
  rw [thing?]
  split
  next long => simp [Nat.not_le.2 long]
  next short =>
    rw [and_iff_right (Nat.le_of_not_lt short)]
    exact isSome_foldlM_iff (fun t p ↦ isSome_putThing_iff t p.1 p.2) {}

/-- `ofJson` decodes an object exactly if each `lastValue?` in it `Fits`. -/
theorem exists_ofJson_ofMembers_iff :
    (∃ d, ofJson (ofMembers members) = .ok d) ↔ ∀ key v, lastValue? key members = some v → Fits key v := by
  rw [ofMembers_eq]
  refine (exists_foldlM_iff (fun d m ↦ exists_put_iff d m.1 m.2) {}).trans ?_
  constructor
  · exact fun h key v last ↦ h (key, v) (mem_ofList_iff.2 last)
  · exact fun h m mem ↦ h m.1 m.2 (mem_ofList_iff.1 mem)

/-- `ofJson` decodes a list exactly if it is not longer than `keys` and each value `Fits` the key at its place. -/
theorem exists_ofJson_array_iff : (∃ d, ofJson (.array items) = .ok d) ↔
    items.length ≤ keys.length ∧ ∀ p ∈ keys.zip items, Fits p.1 p.2 := by
  rw [← exists_foldlM_iff (fun d p ↦ exists_put_iff d p.1 p.2) {}, ofJson]
  cases (keys.zip items).foldlM (fun (d : LinkedData) p ↦ d.put p.1 p.2) {} with
  | error e => simp [bind, Except.bind]
  | ok d =>
    by_cases long : keys.length < items.length
    · simp [bind, Except.bind, long, Nat.not_le.2 long, throw, throwThe, MonadExceptOf.throw]
    · simp [bind, Except.bind, long, Nat.le_of_not_lt long, pure, Except.pure]

end LinkedData

/-! ## Values in which a key is renamed -/

namespace Json

open LinkedData

variable {old new key : String} {v v' : Json}

/-- A `Renamed` value is no string. -/
theorem Renamed.string?_eq_none (h : Renamed old new v v') : string? v = none := by
  cases h with
  | item | value | key => rfl

theorem Renamed.stringOrNull?_eq_none (h : Renamed old new v v') : stringOrNull? v = none := by
  cases h with
  | item | value | key => rfl

/-- `oneOrMany item` takes a `Renamed` value as before if `item` does so. -/
theorem Renamed.isSome_oneOrMany {α : Type} {item : Json → Option α}
    (mono : ∀ {v v'}, Renamed old new v v' → (item v).isSome → (item v').isSome) (h : Renamed old new v v')
    (taken : (oneOrMany item v).isSome) : (oneOrMany item v').isSome := by
  rw [isSome_oneOrMany_iff] at taken ⊢
  rcases taken with ⟨items, list, all⟩ | alone | null
  · cases h with
    | @item before behind x x' within =>
      cases list
      refine .inl ⟨_, rfl, ?_⟩
      obtain ⟨lead, rest⟩ := List.forall_mem_append.1 all
      obtain ⟨here, trail⟩ := List.forall_mem_cons.1 rest
      exact List.forall_mem_append.2 ⟨lead, List.forall_mem_cons.2 ⟨mono within here, trail⟩⟩
    | value | key => cases list
  · exact .inr (.inl (mono h alone))
  · cases h with
    | item | value | key => cases null

/-- `oneString?` takes a `Renamed` value as before: not at all, or as a list of others. -/
theorem Renamed.isSome_oneString? (h : Renamed old new v v') (taken : (oneString? v).isSome) :
    (oneString? v').isSome := by
  rw [oneString?, Option.isSome_map] at taken ⊢
  exact h.isSome_oneOrMany (fun within some ↦ absurd some (by simp [within.stringOrNull?_eq_none])) taken

/-- A `Renamed` value `FitsThing` as before. -/
theorem Renamed.fitsThing (h : Renamed old new v v') (fits : FitsThing key v) : FitsThing key v' where
  id isId := absurd (fits.id isId) (by simp [h.string?_eq_none])
  single isSingle := h.isSome_oneString? (fits.single isSingle)
  addresses isAddresses :=
    h.isSome_oneOrMany (fun within some ↦ absurd some (by simp [within.string?_eq_none])) (fits.addresses isAddresses)

/-- `thing?` takes a `Renamed` value as before, if the two keys are not among `thingKeys`. -/
theorem Renamed.isSome_thing? (notOld : old ∉ thingKeys) (notNew : new ∉ thingKeys) (h : Renamed old new v v')
    (taken : (thing? v).isSome) : (thing? v').isSome := by
  have free {k : String} (unknown : k ∉ thingKeys) (w : Json) : FitsThing k w := by
    simp only [thingKeys, List.mem_cons, List.not_mem_nil, or_false, not_or] at unknown
    constructor <;> simp [unknown]
  cases h with
  | item within =>
    rw [isSome_thing?_array_iff] at taken ⊢
    obtain ⟨short, fit⟩ := taken
    exact ⟨by simpa using short, forall_mem_zip (P := FitsThing) (fun k ↦ within.fitsThing) fit⟩
  | value within =>
    rw [isSome_thing?_ofMembers_iff] at taken ⊢
    exact forall_lastValue?_value within.fitsThing taken
  | key =>
    rw [isSome_thing?_ofMembers_iff] at taken ⊢
    by_cases same : old = new
    · exact same ▸ taken
    · exact (forall_lastValue?_key_iff same taken).2 ⟨.inr (free notNew _), .inr fun w _ ↦ free notOld w⟩

/-- `keywordsOf` takes no `Renamed` value. -/
theorem Renamed.keywordsOf_ne_ok (h : Renamed old new v v') (list : List String) : keywordsOf v ≠ .ok list := by
  intro taken
  cases h with
  | @item before behind x x' within =>
    simp only [keywordsOf, bind, Except.bind] at taken
    split at taken
    next => cases taken
    next lists all =>
      obtain ⟨one, single⟩ := exists_of_mapM all x (by simp)
      cases within with
      | item | value | key => cases single
  | value | key => cases taken

/-- A `Renamed` value `Fits` as before, if the two keys are not among `thingKeys`. -/
theorem Renamed.fits (notOld : old ∉ thingKeys) (notNew : new ∉ thingKeys) (h : Renamed old new v v')
    (fits : Fits key v) : Fits key v' where
  single isSingle := h.isSome_oneString? (fits.single isSingle)
  things isThings := h.isSome_oneOrMany (fun within ↦ within.isSome_thing? notOld notNew) (fits.things isThings)
  keywords isKeywords := by
    obtain ⟨list, taken⟩ := fits.keywords isKeywords
    exact absurd taken (h.keywordsOf_ne_ok list)

end Json

end Gazette
