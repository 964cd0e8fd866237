/-!
# Tables

A `Table` holds values under texts and lists them in the order of these keys, each key once. That order is part
of the type, so two tables that answer alike are equal lists.
-/

namespace Gazette

/-- Entries with `value` under `key`, at the place of this key; it takes the place of an entry of that key. -/
def insertEntry {α : Type} (key : String) (value : α) : List (String × α) → List (String × α)
  | [] => [(key, value)]
  | (k, v) :: rest =>
    if key < k then (key, value) :: (k, v) :: rest
    else if key = k then (key, value) :: rest
    else (k, v) :: insertEntry key value rest

/-- An entry after `insertEntry` is the new one or one from before. -/
theorem mem_insertEntry {α : Type} {key : String} {value : α} {e : String × α}
    {entries : List (String × α)} (h : e ∈ insertEntry key value entries) :
    e = (key, value) ∨ e ∈ entries := by
  induction entries with
  | nil => simpa [insertEntry] using h
  | cons hd tl ih =>
    simp only [insertEntry] at h
    split at h
    · simpa using h
    · split at h
      · rcases List.mem_cons.1 h with h | h
        · exact .inl h
        · exact .inr (List.mem_cons_of_mem _ h)
      · rcases List.mem_cons.1 h with h | h
        · exact .inr (h ▸ List.mem_cons_self)
        · rcases ih h with h | h
          · exact .inl h
          · exact .inr (List.mem_cons_of_mem _ h)

theorem lt_of_not_lt_of_ne {a b : String} (h : ¬ a < b) (hne : a ≠ b) : b < a :=
  Decidable.byContradiction fun h' ↦ hne (String.le_antisymm h' h)

/-- `insertEntry` keeps the order of the keys. -/
theorem pairwise_insertEntry {α : Type} (key : String) (value : α) {entries : List (String × α)}
    (h : entries.Pairwise fun a b ↦ a.1 < b.1) :
    (insertEntry key value entries).Pairwise fun a b ↦ a.1 < b.1 := by
  induction entries with
  | nil => simp [insertEntry]
  | cons hd tl ih =>
    obtain ⟨hlt, htl⟩ := List.pairwise_cons.1 h
    simp only [insertEntry]
    split
    next hk =>
      refine List.pairwise_cons.2 ⟨fun e he ↦ ?_, h⟩
      rcases List.mem_cons.1 he with rfl | he
      · exact hk
      · exact String.lt_trans hk (hlt e he)
    next hk =>
      split
      next heq => exact List.pairwise_cons.2 ⟨fun e he ↦ heq ▸ hlt e he, htl⟩
      next hne =>
        refine List.pairwise_cons.2 ⟨fun e he ↦ ?_, ih htl⟩
        rcases mem_insertEntry he with rfl | he
        · exact lt_of_not_lt_of_ne hk hne
        · exact hlt e he

/-- Values under keys, in the order of the keys. -/
structure Table (α : Type) where
  /-- The entries in their order. -/
  entries : List (String × α)
  /-- Each key comes before all that follow. -/
  sorted : entries.Pairwise fun a b ↦ a.1 < b.1

namespace Table

variable {α : Type}

/-- The table without entries. -/
def empty : Table α := ⟨[], .nil⟩

instance : Inhabited (Table α) := ⟨empty⟩

/-- The value under a key. -/
def get? (t : Table α) (key : String) : Option α := t.entries.lookup key

/-- Whether there is a value under a key. -/
def contains (t : Table α) (key : String) : Bool := (t.get? key).isSome

/-- The table `t` with `value` under `key`, in the place of an entry of this key. -/
def insert (t : Table α) (key : String) (value : α) : Table α :=
  ⟨insertEntry key value t.entries, pairwise_insertEntry key value t.sorted⟩

/-- The table `t` with more entries, inserted one after the other. -/
def insertAll (t : Table α) (entries : List (String × α)) : Table α :=
  entries.foldl (fun t (key, value) ↦ t.insert key value) t

/-- The entries of a list, the last one of each key. -/
def ofList (entries : List (String × α)) : Table α := empty.insertAll entries

/-- The keys in their order. -/
def keys (t : Table α) : List String := t.entries.map Prod.fst

/-- The values in the order of their keys. -/
def values (t : Table α) : List α := t.entries.map Prod.snd

/-- The number of entries. -/
def size (t : Table α) : Nat := t.entries.length

/-- Whether there is no entry. -/
def isEmpty (t : Table α) : Bool := t.entries.isEmpty

/-- `List.lookup` of a key after `insertEntry`. -/
theorem lookup_insertEntry (key k : String) (value : α) (entries : List (String × α)) :
    (insertEntry key value entries).lookup k =
      if k = key then some value else entries.lookup k := by
  induction entries with
  | nil =>
    by_cases h : k = key
    · simp [insertEntry, h]
    · simp [insertEntry, List.lookup_cons, beq_eq_false_iff_ne.2 h, h]
  | cons hd tl ih =>
    obtain ⟨k', v⟩ := hd
    simp only [insertEntry]
    split
    next =>
      by_cases h : k = key
      · simp [h]
      · simp [List.lookup_cons, beq_eq_false_iff_ne.2 h, h]
    next =>
      split
      next heq =>
        subst heq
        by_cases h : k = key
        · simp [h]
        · simp [List.lookup_cons, beq_eq_false_iff_ne.2 h, h]
      next hne =>
        by_cases h : k = k'
        · subst h; simp [Ne.symm hne]
        · simp [List.lookup_cons, beq_eq_false_iff_ne.2 h, ih]

@[simp] theorem get?_insert (t : Table α) (key k : String) (value : α) :
    (t.insert key value).get? k = if k = key then some value else t.get? k :=
  lookup_insertEntry key k value t.entries

@[simp] theorem get?_empty (k : String) : (empty : Table α).get? k = none := rfl

end Table

end Gazette
