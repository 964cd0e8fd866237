import Gazette.Failure.Issues
import Gazette.Site.Extraction

/-!
# Looking issues up

A `Table` answers for a key with the last entry put under it. The keys of a table are different, so the entries
of one that `Table.insertAll` puts into another all arrive, and of the entries before only those whose keys it
does not have are left (`Table.get?_insertAll`). `Issues.get?_extend` and `Site.get?_note` are cases of that.
-/

namespace Gazette

namespace Table

variable {α : Type}

/-- `List.lookup` answers with the first entry if that has the key. -/
theorem lookup_cons (key : String) (hd : String × α) (tl : List (String × α)) :
    (hd :: tl).lookup key = if key = hd.1 then some hd.2 else tl.lookup key := by
  rw [List.lookup_cons]
  by_cases same : key = hd.1
  · rw [if_pos same, beq_iff_eq.2 same]
  · rw [if_neg same, beq_eq_false_iff_ne.2 same]

/-- `List.lookup` does not find a key in front of all keys of the entries. -/
theorem lookup_eq_none_of_forall_lt {key : String} {entries : List (String × α)}
    (first : ∀ e ∈ entries, key < e.1) : entries.lookup key = none := by
  induction entries with
  | nil => rfl
  | cons hd tl ih =>
    have other : key ≠ hd.1 := fun same ↦
      String.lt_irrefl _ (same ▸ first hd List.mem_cons_self)
    rw [lookup_cons, if_neg other]
    exact ih fun e mem ↦ first e (List.mem_cons_of_mem _ mem)

/-- `insertAll` makes a table answer as the new entries do, or else as before. -/
theorem get?_insertAll (t : Table α) {entries : List (String × α)}
    (sorted : entries.Pairwise fun a b ↦ a.1 < b.1) (key : String) :
    (t.insertAll entries).get? key = (entries.lookup key).or (t.get? key) := by
  induction entries generalizing t with
  | nil => rfl
  | cons hd tl ih =>
    obtain ⟨before, rest⟩ := List.pairwise_cons.1 sorted
    have filled : (t.insertAll (hd :: tl)).get? key = ((t.insert hd.1 hd.2).insertAll tl).get? key := rfl
    rw [filled, ih _ rest, get?_insert, lookup_cons]
    split
    next same =>
      rw [same, lookup_eq_none_of_forall_lt before]
      rfl
    next => rfl

/-- The `keys` of a table are those for which `get?` answers. -/
theorem mem_keys_iff {t : Table α} {key : String} : key ∈ t.keys ↔ (t.get? key).isSome := by
  obtain ⟨entries, sorted⟩ := t
  unfold keys get?
  dsimp only
  clear sorted
  induction entries with
  | nil => simp
  | cons hd tl ih =>
    rw [List.map_cons, List.mem_cons, ih, lookup_cons]
    split
    next same => simp [same]
    next other => simp [other]

/-- The `values` of a table are what `get?` answers. -/
theorem mem_values_iff {t : Table α} {value : α} :
    value ∈ t.values ↔ ∃ key, t.get? key = some value := by
  obtain ⟨entries, sorted⟩ := t
  unfold values get?
  dsimp only
  induction entries with
  | nil => simp
  | cons hd tl ih =>
    obtain ⟨before, rest⟩ := List.pairwise_cons.1 sorted
    rw [List.map_cons, List.mem_cons, ih rest]
    constructor
    · rintro (rfl | ⟨key, found⟩)
      · exact ⟨hd.1, by rw [lookup_cons, if_pos rfl]⟩
      · have other : key ≠ hd.1 := by
          rintro rfl
          rw [lookup_eq_none_of_forall_lt before] at found
          cases found
        exact ⟨key, by rw [lookup_cons, if_neg other, found]⟩
    · rintro ⟨key, found⟩
      rw [lookup_cons] at found
      split at found
      · exact .inl (Option.some.inj found).symm
      · exact .inr ⟨key, found⟩

end Table

/-- `Issues.extend` makes issues answer as the other set does, or else as before. -/
theorem Issues.get?_extend (a b : Issues) (key : String) :
    (a.extend b).get? key = (b.get? key).or (a.get? key) :=
  a.get?_insertAll b.sorted key

/-- `Site.note` makes issues answer with the failure for its key, if there is one. -/
theorem Site.get?_note (issues : Issues) (part key : String) (failure : Option Failure) :
    (note issues part failure).get? key =
      if key = part then failure.or (issues.get? key) else issues.get? key := by
  cases failure with
  | none => simp [note]
  | some failure => simp [note]

end Gazette
