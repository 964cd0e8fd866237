import Gazette.Proofs.Json.Spelling
import Gazette.Proofs.Json.Strings

/-!
# Reading records back

However a list of strings is spelled (`Spells`), `Json.list Json.text` reads it as the strings, and however an
object is spelled, its members are read one after another into the draft of a `Form`. What the members of one
object make of a draft is put together from what each of them does (`Form.Loads`), so that members which may be
missing are treated like lists that may be empty. `Loads.parse` reads a whole text so.
-/

namespace Gazette.Json

/-! ## Lists -/

section Lists

variable {first : Bool} {gap : List Char}

/-- `nextItem` finds an item where something visible stands behind a comma, or in front of all. -/
theorem nextItem_comma (space : IsGap gap) {c : Char} (visible : ¬ isSpace c) (item : c ≠ ']')
    (rest : List Char) : nextItem first (comma first ++ gap ++ c :: rest) = .ok (true, c :: rest) := by
  have here := skipSpace_append_cons space visible rest
  have other (cs : List Char) : c :: rest ≠ ']' :: cs := fun same ↦ item (List.cons.inj same).1
  cases first with
  | true =>
    unfold nextItem
    rw [comma, if_pos rfl, List.nil_append, here]
    split
    next none => cases none
    next close => exact absurd close (other _)
    next same => exact congrArg (fun cs ↦ Except.ok (true, cs)) same.symm
  | false =>
    have behind : skipSpace (',' :: (gap ++ c :: rest)) = ',' :: (gap ++ c :: rest) := rfl
    have comma_ne : (',' : Char) ≠ ']' := by decide
    unfold nextItem
    rw [comma, if_neg Bool.false_ne_true, List.append_assoc, List.singleton_append, behind]
    split
    next none => cases none
    next close => exact absurd (List.cons.inj close).1 comma_ne
    next same =>
      cases same
      rw [if_neg Bool.false_ne_true, if_pos rfl, here]
      split
      next none => cases none
      next close => exact absurd close (other _)
      next => rfl

/-- `nextItem` finds no item where the list closes. -/
theorem nextItem_close (space : IsGap gap) (rest : List Char) :
    nextItem first (gap ++ ']' :: rest) = .ok (false, ']' :: rest) := by
  have visible : ¬ isSpace ']' := by decide
  unfold nextItem
  rw [skipSpace_append_cons space visible]
  rfl

theorem SpellsItems.length_le {items : List Json} {cs : List Char} (h : SpellsItems first items cs) :
    items.length ≤ cs.length + first.toNat := by
  induction items generalizing first cs with
  | nil => exact Nat.zero_le _
  | cons item items ih =>
    cases h with
    | cons space spelled others =>
      have more := ih others
      cases first <;> simp [comma] at more ⊢ <;> omega

/-- `itemsWith text` reads spelled strings one after another, up to the end of the list. -/
theorem itemsWith_text {items : List String} {cs : List Char}
    (h : SpellsItems first (items.map .string) cs) (space : IsGap gap) (rest : List Char) {fuel : Nat}
    (enough : items.length < fuel) :
    itemsWith text fuel first (cs ++ gap ++ ']' :: rest) = .ok (items, ']' :: rest) := by
  induction items generalizing first cs fuel with
  | nil =>
    cases h
    cases fuel with
    | zero => cases enough
    | succ fuel =>
      rw [List.nil_append, itemsWith, nextItem_close space]
      rfl
  | cons s items ih =>
    cases fuel with
    | zero => cases enough
    | succ fuel =>
      cases h with
      | @cons _ _ _ gap' _ more space' spelled others =>
        cases spelled
        have quote : ¬ isSpace '"' := by decide
        have follows : nextItem first _ = _ := nextItem_comma space' quote (by decide)
          (s.toList.flatMap escaped ++ '"' :: (more ++ gap ++ ']' :: rest))
        have read := readsAs_text s [] (more ++ gap ++ ']' :: rest) isGap_nil
        have whole : comma first ++ gap' ++ stringText s ++ more ++ gap ++ ']' :: rest =
            comma first ++ gap' ++ (stringText s ++ (more ++ gap ++ ']' :: rest)) := by
          simp only [List.append_assoc]
        rw [← stringText_append] at follows
        rw [List.nil_append] at read
        rw [whole, itemsWith, follows]
        simp only [bind, Except.bind, read, ih others (Nat.lt_of_succ_lt_succ enough), pure, Except.pure]

/-- `list text` reads any spelling of a list of strings as the strings. -/
theorem readsAs_list_text {items : List String} {cs : List Char} (h : Spells (.strings items) cs) :
    ReadsAs (list text) cs items := by
  intro gap rest space
  cases h with
  | @array _ cs behind spelled space' =>
    have bracket : ¬ isSpace '[' := by decide
    have whole : gap ++ ('[' :: cs ++ behind ++ [']']) ++ rest = gap ++ '[' :: (cs ++ behind ++ ']' :: rest) := by
      simp only [List.append_assoc, List.cons_append, List.nil_append]
    have enough : items.length < (cs ++ behind ++ ']' :: rest).length + 1 := by
      have short := spelled.length_le
      rw [List.length_map, Bool.toNat_true] at short
      rw [List.length_append, List.length_append, List.length_cons]
      omega
    unfold list
    rw [whole, skipSpace_append_cons space bracket]
    unfold listRest
    simp only [bind, Except.bind, itemsWith_text spelled space' rest enough]
    rfl

end Lists

/-! ## Members -/

section Members

variable {first : Bool} {gap : List Char}

/-- `nextKey` takes the string behind a comma, or in front of all, as a key. -/
theorem nextKey_quote (space : IsGap gap) {cs rest : List Char} {key : String}
    (read : stringRest cs = .ok (key, rest)) :
    nextKey first (comma first ++ gap ++ '"' :: cs) = .ok (some key, rest) := by
  have quote : ¬ isSpace '"' := by decide
  have here := skipSpace_append_cons space quote cs
  unfold nextKey
  dsimp only
  cases first with
  | true =>
    have visible : ('"' : Char) ≠ '\x7d' := by decide
    rw [comma, if_pos rfl, List.nil_append, here]
    split
    next none => cases none
    next close => exact absurd (List.cons.inj close).1 visible
    next same =>
      cases same
      rw [if_pos rfl, if_pos rfl, read]
      rfl
  | false =>
    have behind : skipSpace (',' :: (gap ++ '"' :: cs)) = ',' :: (gap ++ '"' :: cs) := rfl
    have visible : (',' : Char) ≠ '\x7d' := by decide
    rw [comma, if_neg Bool.false_ne_true, List.append_assoc, List.singleton_append, behind]
    split
    next none => cases none
    next close => exact absurd (List.cons.inj close).1 visible
    next same =>
      cases same
      rw [if_neg Bool.false_ne_true, if_pos rfl, here]
      simp only [read, bind, Except.bind, pure, Except.pure]

/-- `nextKey` reads `stringText key` behind a comma, or in front of all, as `key`. -/
theorem nextKey_comma (space : IsGap gap) (key : String) (rest : List Char) :
    nextKey first (comma first ++ gap ++ (stringText key ++ rest)) = .ok (some key, rest) := by
  rw [stringText_append]
  exact nextKey_quote space (stringRest_flatMap_escaped key rest)

/-- `nextKey` finds no key where the object closes. -/
theorem nextKey_close (space : IsGap gap) (rest : List Char) :
    nextKey first (gap ++ '\x7d' :: rest) = .ok (none, '\x7d' :: rest) := by
  have visible : ¬ isSpace '\x7d' := by decide
  unfold nextKey
  rw [skipSpace_append_cons space visible]
  rfl

theorem SpellsMembers.length_le {members : List (String × Json)} {cs : List Char}
    (h : SpellsMembers first members cs) : members.length ≤ cs.length := by
  induction members generalizing first cs with
  | nil => exact Nat.zero_le _
  | cons member members ih =>
    cases h with
    | cons space space' spelled others =>
      have more := ih others
      simp only [List.length_append, List.length_cons]
      omega

end Members

/-! ## Records -/

/-- A field that `Field.of` makes reads its value into the draft by its `set`. -/
theorem Field.readsAs_of {Draft α : Type} {read : Reads α} {cs : List Char} {x : α} (h : ReadsAs read cs x)
    (key : String) (get : Draft → Option α) (set : Draft → α → Draft) (mayLack : Bool) (draft : Draft) :
    ReadsAs ((Field.of key read get set mayLack).read draft) cs (set draft x) := by
  intro gap rest space
  simp only [Field.of, h gap rest space, bind, Except.bind, pure, Except.pure]

namespace Form

variable {Draft Result : Type} (form : Form Draft Result)

/-- `form.Loads members draft final`: the fields of `form` read the members one after another, and with that
`draft` becomes `final`. The draft has none of these fields before. -/
inductive Loads : List (String × Json) → Draft → Draft → Prop
  /-- No members make no difference. -/
  | nil (draft : Draft) : Loads [] draft draft
  /-- A member is read into its field, however it is spelled. -/
  | cons {key : String} {value : Json} {members : List (String × Json)} {field : Field Draft}
      {draft next final : Draft} (found : form.fields.find? (·.key == key) = some field)
      (unset : field.isSet draft = false)
      (reads : ∀ cs, Spells value cs → ReadsAs (field.read draft) cs next)
      (others : Loads members next final) : Loads ((key, value) :: members) draft final

variable {form} {members : List (String × Json)} {draft final : Draft}

/-- `Loads` of members in front and of members behind put together. -/
theorem Loads.append {more : List (String × Json)} {draft' : Draft} (h : form.Loads members draft draft')
    (h' : form.Loads more draft' final) : form.Loads (members ++ more) draft final := by
  induction h with
  | nil => exact h'
  | cons found unset reads _ ih => exact .cons found unset reads (ih h')

/-- A member under the key of a field that `Field.of` makes `Loads` its value. -/
theorem Loads.field {α : Type} {key : String} {value : Json} {read : Reads α} {get : Draft → Option α}
    {set : Draft → α → Draft} {mayLack : Bool} {x : α}
    (found : form.fields.find? (·.key == key) = some (.of key read get set mayLack))
    (unset : get draft = none) (reads : ∀ cs, Spells value cs → ReadsAs read cs x)
    (others : form.Loads members (set draft x) final) : form.Loads ((key, value) :: members) draft final :=
  .cons found (Option.isSome_eq_false_iff.2 (Option.isNone_iff_eq_none.2 unset))
    (fun cs spelled ↦ Field.readsAs_of (reads cs spelled) key get set mayLack draft) others

/-- `Form.byKey` reads the members that `Loads` tells, up to the end of the object. -/
theorem Loads.byKey {first : Bool} {cs gap : List Char} (h : form.Loads members draft final)
    (spelled : SpellsMembers first members cs) (space : IsGap gap) (rest : List Char) {fuel : Nat}
    (enough : members.length < fuel) :
    form.byKey fuel first draft (cs ++ gap ++ '\x7d' :: rest) = .ok (final, '\x7d' :: rest) := by
  -- The members are read in the order in which they change the draft; each step takes a comma, a key and a value.
  induction h generalizing first cs fuel with
  | nil draft =>
    cases spelled
    cases fuel with
    | zero => cases enough
    | succ fuel =>
      rw [List.nil_append, Form.byKey, nextKey_close space]
      rfl
  | @cons key value members field draft next final found unset reads others ih =>
    cases fuel with
    | zero => cases enough
    | succ fuel =>
      cases spelled with
      | @cons _ _ _ _ before behind cs more space' space'' value others =>
        have follows : nextKey first _ = _ := nextKey_comma space' key
          (':' :: (behind ++ cs ++ (more ++ gap ++ '\x7d' :: rest)))
        have read := reads cs value behind (more ++ gap ++ '\x7d' :: rest) space''
        have whole : comma first ++ before ++ stringText key ++ ':' :: (behind ++ cs) ++ more ++ gap ++
              '\x7d' :: rest =
            comma first ++ before ++ (stringText key ++
              ':' :: (behind ++ cs ++ (more ++ gap ++ '\x7d' :: rest))) := by
          simp only [List.append_assoc, List.cons_append]
        have sign (rest : List Char) : colon (':' :: rest) = .ok ((), rest) := rfl
        rw [whole, Form.byKey, follows]
        simp only [bind, Except.bind, found, unset, sign, read, Bool.false_eq_true, if_false,
          ih others (Nat.lt_of_succ_lt_succ enough)]

/-- `Form.read` reads any spelling of an object as the record that its members make. -/
theorem Loads.readsAs {cs : List Char} {x : Result} (h : form.Loads members form.start final)
    (done : form.finish final = .ok x) (spelled : Spells (.object members) cs) : ReadsAs form.read cs x := by
  intro gap rest space
  cases spelled with
  | @object _ cs behind spelled space' =>
    have brace : ¬ isSpace '\x7b' := by decide
    have whole : gap ++ ('\x7b' :: cs ++ behind ++ ['\x7d']) ++ rest =
        gap ++ '\x7b' :: (cs ++ behind ++ '\x7d' :: rest) := by
      simp only [List.append_assoc, List.cons_append, List.nil_append]
    have enough : members.length < (cs ++ behind ++ '\x7d' :: rest).length + 1 := by
      have short := spelled.length_le
      rw [List.length_append, List.length_append, List.length_cons]
      omega
    have read := h.byKey spelled space' rest enough
    unfold Form.read
    rw [whole, skipSpace_append_cons space brace]
    split
    next list => exact absurd (List.cons.inj list).1 (by decide)
    next object =>
      cases object
      have close : closeObject ('\x7d' :: rest) = .ok ((), rest) := rfl
      simp only [read, close, bind, Except.bind, done, pure, Except.pure]
    next other => exact absurd rfl (other _)

/-- `Form.parse` reads a text that spells an object, with white space around it, as the record that its members
make. -/
theorem Loads.parse {cs before behind : List Char} {x : Result} (h : form.Loads members form.start final)
    (done : form.finish final = .ok x) (spelled : Spells (.object members) cs) (space : IsGap before)
    (space' : IsGap behind) : form.parse (String.ofList (before ++ cs ++ behind)) = .ok x := by
  unfold Form.parse
  rw [String.toList_ofList]
  exact (h.readsAs done spelled).whole space space'

end Form

end Gazette.Json
