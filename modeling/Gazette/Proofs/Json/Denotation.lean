import Gazette.Proofs.Json.Records
import Gazette.Proofs.Json.Tokens

/-!
# What a text denotes

`Denotes depth v cs` says that the run `cs` is one of the texts of the value `v`: a token (`IsScalar`), or a
list or object of such runs with white space between them (`Row`, `Member`), in which lists and objects lie at
most `depth` deep in each other. `Json.parseChars` reads a text as a value exactly if the text denotes the value
(`parseChars_eq_ok_iff`), so what holds of the texts of this relation, by induction on the depth, holds of the
texts that are read.

`Exact read denotes` is what the induction carries for one depth: `read` takes what `denotes` a value, and
nothing else.
-/

namespace Gazette.Json

/-! ## Rows -/

/-- `Row denotes first xs cs`: the run `cs` holds the items of a list or the members of an object, with a comma in
front of each but the first one and white space around them, up to the bracket that closes the row. -/
inductive Row {α : Type} (denotes : α → List Char → Prop) : Bool → List α → List Char → Prop
  /-- No items are left. -/
  | nil {first : Bool} {gap : List Char} (space : IsGap gap) : Row denotes first [] gap
  /-- An item in front of others. -/
  | cons {first : Bool} {x : α} {xs : List α} {before behind cs more : List Char} (space : IsGap before)
      (space' : IsGap behind) (item : denotes x cs) (others : Row denotes false xs more) :
      Row denotes first (x :: xs) (before ++ comma first ++ behind ++ cs ++ more)

/-- `Member denotes m cs`: the run `cs` is the key of `m`, a colon and what `denotes` the value of `m`, with white
space between them. -/
inductive Member (denotes : Json → List Char → Prop) : String × Json → List Char → Prop
  /-- A member of an object. -/
  | mk {body token gap gap' cs : List Char} {v : Json} (key : Quoted body token) (space : IsGap gap)
      (space' : IsGap gap') (value : denotes v cs) :
      Member denotes (String.ofList body, v) ('"' :: token ++ gap ++ ':' :: (gap' ++ cs))

/-- A token, or a list or object of parts that `denotes` relates to values. -/
inductive Composes (denotes : Json → List Char → Prop) : Json → List Char → Prop
  /-- A number, a word or a string. -/
  | scalar {v : Json} {c : Char} {token : List Char} (scalar : IsScalar v c token) : Composes denotes v (c :: token)
  /-- A list of values. -/
  | array {items : List Json} {row : List Char} (items_row : Row denotes true items row) :
      Composes denotes (.array items) ('[' :: row ++ [']'])
  /-- An object with values. -/
  | object {members : List (String × Json)} {row : List Char} (members_row : Row (Member denotes) true members row) :
      Composes denotes (ofMembers members) ('\x7b' :: row ++ ['\x7d'])

/-- What a text without white space at its ends denotes if lists and objects lie at most `depth` deep in each
other. -/
def Denotes : (depth : Nat) → Json → List Char → Prop
  | 0 => fun v cs ↦ ∃ c token, cs = c :: token ∧ IsScalar v c token
  | depth + 1 => Composes (Denotes depth)

theorem IsGap.append {gap gap' : List Char} (h : IsGap gap) (h' : IsGap gap') : IsGap (gap ++ gap') :=
  List.forall_mem_append.2 ⟨h, h'⟩

/-- What `skipSpace` skips is white space. -/
theorem exists_gap (cs : List Char) : ∃ gap, IsGap gap ∧ cs = gap ++ skipSpace cs :=
  ⟨cs.takeWhile isSpace, fun _ ↦ List.mem_takeWhile_imp, List.takeWhile_append_dropWhile.symm⟩

theorem not_isNumberChar_of_isSpace {c : Char} (h : isSpace c) : ¬ isNumberChar c := by
  simp only [isSpace, Bool.or_eq_true, beq_iff_eq] at h
  rcases h with ((rfl | rfl) | rfl) | rfl <;> decide

theorem IsGap.ends {gap : List Char} (space : IsGap gap) {rest : List Char} (ends : Ends rest) :
    Ends (gap ++ rest) := by
  cases gap with
  | nil => exact ends
  | cons c gap =>
    rintro d ⟨⟩
    exact not_isNumberChar_of_isSpace (space c List.mem_cons_self)

theorem ends_cons {c : Char} (other : ¬ isNumberChar c) (rest : List Char) : Ends (c :: rest) := by
  rintro d ⟨⟩
  exact other

/-- Behind an item of a `Row` no number goes on. -/
theorem Row.ends {α : Type} {denotes : α → List Char → Prop} {xs : List α} {row : List Char}
    (h : Row denotes false xs row) {close : Char} (other : ¬ isNumberChar close) (rest : List Char) :
    Ends (row ++ close :: rest) := by
  cases h with
  | nil space => exact space.ends (ends_cons other rest)
  | cons space =>
    rw [comma, if_neg Bool.false_ne_true]
    simp only [List.append_assoc, List.singleton_append]
    exact space.ends (ends_cons (by decide) _)

/-! ## Readers of values -/

/-- `Exact read denotes`: the reader `read` reads what `denotes` a value, with white space in front and up to
where no number goes on, as this value, and nothing else. -/
structure Exact {α : Type} (read : Reads α) (denotes : α → List Char → Prop) : Prop where
  /-- What denotes a value begins with something other than white space and closing brackets. -/
  head : ∀ x token, denotes x token → ∃ c more, token = c :: more ∧ ¬ isSpace c ∧ c ≠ ']'
  /-- What is read as a value denotes it. -/
  sound : ∀ cs x rest, read cs = .ok (x, rest) → ∃ gap token, IsGap gap ∧ cs = gap ++ token ++ rest ∧ denotes x token
  /-- What denotes a value is read as it. -/
  complete : ∀ gap x token rest, IsGap gap → denotes x token → Ends rest → read (gap ++ token ++ rest) = .ok (x, rest)

section Lists

variable {α : Type} {read : Reads α} {denotes : α → List Char → Prop} {first follows : Bool} {xs : List α}
  {cs row rest : List Char} {fuel : Nat}

/-- `nextItem` skips white space in front. -/
theorem nextItem_append {gap : List Char} (space : IsGap gap) (cs : List Char) :
    nextItem first (gap ++ cs) = nextItem first cs := by
  unfold nextItem
  rw [skipSpace_append space]

/-- `nextItem` finds an item behind a comma or in front of all, and none at the end of the list. -/
theorem nextItem_eq_ok (read : nextItem first cs = .ok (follows, rest)) :
    if follows then ∃ before behind, IsGap before ∧ IsGap behind ∧ cs = before ++ comma first ++ behind ++ rest
    else ∃ gap more, IsGap gap ∧ cs = gap ++ rest ∧ rest = ']' :: more := by
  obtain ⟨gap, space, row⟩ := exists_gap cs
  unfold nextItem at read
  split at read
  next => cases read
  next here =>
    cases read
    exact ⟨gap, _, space, here ▸ row, rfl⟩
  next c behind _ here =>
    rw [here] at row
    split at read
    next isFirst =>
      cases read
      rw [isFirst]
      exact ⟨gap, [], space, isGap_nil, by simpa [comma] using row⟩
    next notFirst =>
      split at read
      next isComma =>
        obtain ⟨gap', space', row'⟩ := exists_gap behind
        split at read
        next => cases read
        next => cases read
        next =>
          cases read
          refine ⟨gap, gap', space, space', ?_⟩
          rw [row, isComma, comma, if_neg notFirst, List.append_assoc, List.append_assoc, ← row']
          rfl
      next => cases read

/-- What `itemsWith` reads is a `Row`. -/
theorem Exact.row_of_itemsWith (h : Exact read denotes) (found : itemsWith read fuel first cs = .ok (xs, rest)) :
    ∃ row more, cs = row ++ rest ∧ Row denotes first xs row ∧ rest = ']' :: more := by
  induction fuel generalizing first cs xs with
  | zero => cases found
  | succ fuel ih =>
    obtain ⟨⟨follows, behind⟩, next, items⟩ := exists_of_bind found
    have here := nextItem_eq_ok next
    cases follows with
    | false =>
      cases items
      obtain ⟨gap, more, space, row, close⟩ := here
      exact ⟨gap, more, row, .nil space, close⟩
    | true =>
      obtain ⟨⟨x, left⟩, item, half⟩ := exists_of_bind items
      obtain ⟨⟨others, _⟩, later, done⟩ := exists_of_bind half
      cases done
      obtain ⟨before, behind, space, space', rfl⟩ := here
      obtain ⟨gap, token, space'', rfl, denoted⟩ := h.sound _ _ _ item
      obtain ⟨row, more, rfl, others, close⟩ := ih later
      refine ⟨_, more, ?_, .cons space (space'.append space'') denoted others, close⟩
      simp only [List.append_assoc]

/-- A `Row` has at least as many characters as items. -/
theorem Row.length_le (head : ∀ x token, denotes x token → token ≠ []) (h : Row denotes first xs row) :
    xs.length ≤ row.length := by
  induction h with
  | nil => exact Nat.zero_le _
  | cons space space' item others ih =>
    have some := List.length_pos_iff.2 (head _ _ item)
    simp only [List.length_append, List.length_cons]
    omega

/-- `itemsWith` reads a `Row`, given enough fuel. -/
theorem Exact.itemsWith (h : Exact read denotes) (items : Row denotes first xs row) (enough : xs.length < fuel)
    (rest : List Char) : itemsWith read fuel first (row ++ ']' :: rest) = .ok (xs, ']' :: rest) := by
  induction items generalizing fuel with
  | nil space =>
    cases fuel with
    | zero => cases enough
    | succ fuel =>
      rw [Json.itemsWith, nextItem_close space]
      rfl
  | @cons first x xs before behind cs more space space' item others ih =>
    cases fuel with
    | zero => cases enough
    | succ fuel =>
      obtain ⟨c, token, rfl, visible, notClose⟩ := h.head _ _ item
      have follows : nextItem first _ = _ :=
        nextItem_comma space' visible notClose (token ++ (more ++ ']' :: rest))
      have one := h.complete [] x _ (more ++ ']' :: rest) isGap_nil item (others.ends (by decide) rest)
      have whole : before ++ comma first ++ behind ++ c :: token ++ more ++ ']' :: rest =
          before ++ (comma first ++ behind ++ c :: (token ++ (more ++ ']' :: rest))) := by
        simp only [List.append_assoc, List.cons_append]
      rw [List.nil_append, List.cons_append] at one
      rw [whole, Json.itemsWith, nextItem_append space, follows]
      simp only [bind, Except.bind, one, ih (Nat.lt_of_succ_lt_succ enough), pure, Except.pure]

/-- What `listRest` reads is a `Row` with its closing bracket. -/
theorem Exact.row_of_listRest (h : Exact read denotes) (list : listRest read cs = .ok (xs, rest)) :
    ∃ row, cs = row ++ ']' :: rest ∧ Row denotes true xs row := by
  obtain ⟨⟨xs, behind⟩, found, half⟩ := exists_of_bind list
  obtain ⟨⟨⟨⟩, left⟩, close, done⟩ := exists_of_bind half
  cases done
  obtain ⟨row, more, rfl, items, rfl⟩ := h.row_of_itemsWith found
  have closed : closeList (']' :: more) = .ok ((), more) := rfl
  rw [closed] at close
  cases close
  exact ⟨row, rfl, items⟩

/-- `listRest` reads a `Row` with its closing bracket. -/
theorem Exact.listRest (h : Exact read denotes) (items : Row denotes true xs row) (rest : List Char) :
    listRest read (row ++ ']' :: rest) = .ok (xs, rest) := by
  have short := items.length_le fun x token denoted ↦ by
    obtain ⟨c, more, rfl, -⟩ := h.head x token denoted
    exact List.cons_ne_nil c more
  have closed : closeList (']' :: rest) = .ok ((), rest) := rfl
  unfold Json.listRest
  rw [h.itemsWith items (by rw [List.length_append]; omega)]
  simp only [bind, Except.bind, closed, pure, Except.pure]

end Lists

section Objects

variable {read : Reads Json} {denotes : Json → List Char → Prop} {first : Bool} {members : List (String × Json)}
  {key? : Option String} {cs row rest : List Char} {fuel : Nat}

/-- `nextKey` skips white space in front. -/
theorem nextKey_append {gap : List Char} (space : IsGap gap) (cs : List Char) :
    nextKey first (gap ++ cs) = nextKey first cs := by
  unfold nextKey
  rw [skipSpace_append space]

/-- The key that `stringRest` reads is `Quoted`. -/
theorem exists_key {cs rest : List Char} (found : (do
      let (k, rest) ← stringRest cs
      return (some k, rest) : Except Fault (Option String × List Char)) = .ok (key?, rest)) :
    ∃ body token, key? = some (String.ofList body) ∧ Quoted body token ∧ cs = token ++ rest := by
  obtain ⟨⟨key, behind⟩, string, done⟩ := exists_of_bind found
  cases done
  obtain ⟨⟨body, behind⟩, string, done⟩ := exists_of_bind string
  cases done
  obtain ⟨token, rfl, quoted⟩ := exists_quoted string
  exact ⟨body, token, rfl, quoted, rfl⟩

/-- `nextKey` finds a key behind a comma or in front of all, and none at the end of the object. -/
theorem nextKey_eq_ok (found : nextKey first cs = .ok (key?, rest)) :
    (∃ gap more, key? = none ∧ IsGap gap ∧ cs = gap ++ rest ∧ rest = '\x7d' :: more) ∨
    ∃ body token before behind, key? = some (String.ofList body) ∧ Quoted body token ∧ IsGap before ∧ IsGap behind ∧
      cs = before ++ comma first ++ behind ++ '"' :: token ++ rest := by
  obtain ⟨gap, space, row⟩ := exists_gap cs
  unfold nextKey at found
  dsimp only at found
  split at found
  next => cases found
  next here =>
    cases found
    exact .inl ⟨gap, _, rfl, space, here ▸ row, rfl⟩
  next c behind _ here =>
    rw [here] at row
    split at found
    next isFirst =>
      split at found
      next quote =>
        obtain ⟨body, token, some, quoted, rfl⟩ := exists_key found
        refine .inr ⟨body, token, gap, [], some, quoted, space, isGap_nil, ?_⟩
        rw [row, quote, comma, if_pos isFirst]
        simp
      next => cases found
    next notFirst =>
      split at found
      next isComma =>
        obtain ⟨gap', space', row'⟩ := exists_gap behind
        split at found
        next => cases found
        next quote =>
          obtain ⟨body, token, some, quoted, rfl⟩ := exists_key found
          refine .inr ⟨body, token, gap, gap', some, quoted, space, space', ?_⟩
          rw [row, isComma, comma, if_neg notFirst, row', quote]
          simp
        next => cases found
        next => cases found
      next => cases found

/-- `colon` reads a colon with white space in front, and nothing else. -/
theorem colon_eq_ok (found : colon cs = .ok ((), rest)) : ∃ gap, IsGap gap ∧ cs = gap ++ ':' :: rest := by
  obtain ⟨gap, space, row⟩ := exists_gap cs
  unfold colon at found
  split at found
  next => cases found
  next here =>
    cases found
    exact ⟨gap, space, here ▸ row⟩
  next => cases found

theorem colon_append {gap : List Char} (space : IsGap gap) (rest : List Char) :
    colon (gap ++ ':' :: rest) = .ok ((), rest) := by
  have visible : ¬ isSpace ':' := by decide
  unfold colon
  rw [skipSpace_append_cons space visible]
  rfl

/-- What `membersWith` reads is a `Row` of `Member`s. -/
theorem Exact.row_of_membersWith (h : Exact read denotes)
    (found : membersWith read fuel first cs = .ok (members, rest)) :
    ∃ row more, cs = row ++ rest ∧ Row (Member denotes) first members row ∧ rest = '\x7d' :: more := by
  induction fuel generalizing first cs members with
  | zero => cases found
  | succ fuel ih =>
    obtain ⟨⟨key?, behind⟩, next, member⟩ := exists_of_bind found
    rcases nextKey_eq_ok next with ⟨gap, more, rfl, space, row, close⟩ |
      ⟨body, token, before, gap, rfl, quoted, space, space', rfl⟩
    · cases member
      exact ⟨gap, more, row, .nil space, close⟩
    · obtain ⟨⟨⟨⟩, left⟩, sign, half⟩ := exists_of_bind member
      obtain ⟨⟨v, left⟩, value, tail⟩ := exists_of_bind half
      obtain ⟨⟨others, _⟩, later, done⟩ := exists_of_bind tail
      cases done
      obtain ⟨gap', space'', rfl⟩ := colon_eq_ok sign
      obtain ⟨gap'', cs, valueSpace, rfl, denoted⟩ := h.sound _ _ _ value
      obtain ⟨row, more, rfl, others, close⟩ := ih later
      refine ⟨_, more, ?_, .cons space space' (.mk quoted space'' valueSpace denoted) others, close⟩
      simp only [List.append_assoc, List.cons_append]

theorem Member.ne_nil {m : String × Json} {cs : List Char} (h : Member denotes m cs) : cs ≠ [] := by
  cases h with
  | mk => exact List.cons_ne_nil _ _

/-- `membersWith` reads a `Row` of `Member`s, given enough fuel. -/
theorem Exact.membersWith (h : Exact read denotes) (row_members : Row (Member denotes) first members row)
    (enough : members.length < fuel) (rest : List Char) :
    membersWith read fuel first (row ++ '\x7d' :: rest) = .ok (members, '\x7d' :: rest) := by
  induction row_members generalizing fuel with
  | nil space =>
    cases fuel with
    | zero => cases enough
    | succ fuel =>
      rw [Json.membersWith, nextKey_close space]
      rfl
  | @cons first m members before behind cs more space space' item others ih =>
    cases fuel with
    | zero => cases enough
    | succ fuel =>
      cases item with
      | @mk body token gap gap' cs v key space'' valueSpace value =>
        have follows : nextKey first _ = _ := nextKey_quote space'
          (key.stringRest (gap ++ ':' :: (gap' ++ cs ++ (more ++ '\x7d' :: rest))))
        have one := h.complete gap' v cs (more ++ '\x7d' :: rest) valueSpace value (others.ends (by decide) rest)
        have whole : before ++ comma first ++ behind ++ ('"' :: token ++ gap ++ ':' :: (gap' ++ cs)) ++ more ++
              '\x7d' :: rest =
            before ++ (comma first ++ behind ++
              '"' :: (token ++ (gap ++ ':' :: (gap' ++ cs ++ (more ++ '\x7d' :: rest))))) := by
          simp only [List.append_assoc, List.cons_append]
        rw [whole, Json.membersWith, nextKey_append space, follows]
        simp only [bind, Except.bind, colon_append space'', one, ih (Nat.lt_of_succ_lt_succ enough), pure,
          Except.pure]

/-- What `objectRest` reads is a `Row` of `Member`s with its closing brace. -/
theorem Exact.row_of_objectRest (h : Exact read denotes) (object : objectRest read cs = .ok (members, rest)) :
    ∃ row, cs = row ++ '\x7d' :: rest ∧ Row (Member denotes) true members row := by
  obtain ⟨⟨members, behind⟩, found, half⟩ := exists_of_bind object
  obtain ⟨⟨⟨⟩, left⟩, close, done⟩ := exists_of_bind half
  cases done
  obtain ⟨row, more, rfl, row_members, rfl⟩ := h.row_of_membersWith found
  have closed : closeObject ('\x7d' :: more) = .ok ((), more) := rfl
  rw [closed] at close
  cases close
  exact ⟨row, rfl, row_members⟩

/-- `objectRest` reads a `Row` of `Member`s with its closing brace. -/
theorem Exact.objectRest (h : Exact read denotes) (row_members : Row (Member denotes) true members row)
    (rest : List Char) : objectRest read (row ++ '\x7d' :: rest) = .ok (members, rest) := by
  have short := row_members.length_le fun _ _ ↦ Member.ne_nil
  have closed : closeObject ('\x7d' :: rest) = .ok ((), rest) := rfl
  unfold Json.objectRest
  rw [h.membersWith row_members (by rw [List.length_append]; omega)]
  simp only [bind, Except.bind, closed, pure, Except.pure]

end Objects

/-! ## Values -/

/-- `value 0` reads just the tokens. -/
theorem exact_value_zero : Exact (value 0) (Denotes 0) := by
  refine ⟨?_, fun cs v rest read ↦ ?_, ?_⟩
  · rintro v _ ⟨c, token, rfl, scalar⟩
    have head := scalar.head
    exact ⟨c, token, rfl, head.1, fun close ↦ head.2 (by simp [close])⟩
  · obtain ⟨gap, space, row⟩ := exists_gap cs
    unfold value at read
    split at read
    next => cases read
    next c behind here =>
      split at read
      next => cases read
      next =>
        obtain ⟨token, rfl, scalar⟩ := exists_isScalar read
        refine ⟨gap, c :: token, space, ?_, c, token, rfl, scalar⟩
        rw [row, here, List.append_assoc, List.cons_append]
  · rintro gap v _ rest space ⟨c, token, rfl, scalar⟩ ends
    obtain ⟨visible, other⟩ := scalar.head
    have bracket : ¬ (c = '[' ∨ c = '\x7b') := by
      rintro (rfl | rfl)
      · exact other (by simp)
      · exact other (by simp)
    unfold value
    rw [List.append_assoc, List.cons_append, skipSpace_append_cons space visible]
    dsimp only
    rw [if_neg bracket, scalar.reads rest ends]

/-- If `value depth` reads parts as what they denote, `value (depth + 1)` does so with lists and objects of
them. -/
theorem Exact.value_succ {depth : Nat} (h : Exact (value depth) (Denotes depth)) :
    Exact (value (depth + 1)) (Denotes (depth + 1)) := by
  refine ⟨fun v token denoted ↦ ?_, fun cs v rest read ↦ ?_, fun gap v token rest space denoted ends ↦ ?_⟩
  · cases denoted with
    | scalar scalar =>
      have head := scalar.head
      exact ⟨_, _, rfl, head.1, fun close ↦ head.2 (by simp [close])⟩
    | array => exact ⟨'[', _, rfl, by decide, by decide⟩
    | object => exact ⟨'\x7b', _, rfl, by decide, by decide⟩
  · obtain ⟨gap, space, row⟩ := exists_gap cs
    unfold value at read
    split at read
    next => cases read
    next c behind here =>
      rw [here] at row
      split at read
      next list =>
        obtain ⟨⟨items, left⟩, found, done⟩ := exists_of_bind read
        cases done
        obtain ⟨inner, rfl, items⟩ := h.row_of_listRest found
        exact ⟨gap, _, space, by simp [row, list], .array items⟩
      next =>
        split at read
        next object =>
          obtain ⟨⟨members, left⟩, found, done⟩ := exists_of_bind read
          cases done
          obtain ⟨inner, rfl, members⟩ := h.row_of_objectRest found
          exact ⟨gap, _, space, by simp [row, object], .object members⟩
        next =>
          obtain ⟨token, rfl, scalar⟩ := exists_isScalar read
          exact ⟨gap, _, space, by simp [row], .scalar scalar⟩
  · cases denoted with
    | @scalar _ c token scalar =>
      obtain ⟨visible, other⟩ := scalar.head
      have notList : c ≠ '[' := fun same ↦ other (by simp [same])
      have notObject : c ≠ '\x7b' := fun same ↦ other (by simp [same])
      unfold value
      dsimp only
      rw [List.append_assoc, List.cons_append, skipSpace_append_cons space visible]
      dsimp only
      rw [if_neg notList, if_neg notObject, scalar.reads rest ends]
    | @array items row items_row =>
      have whole : gap ++ ('[' :: row ++ [']']) ++ rest = gap ++ '[' :: (row ++ ']' :: rest) := by simp
      unfold value
      dsimp only
      rw [whole, skipSpace_append_cons space (by decide)]
      simp only [if_true, h.listRest items_row, bind, Except.bind, pure, Except.pure]
    | @object members row members_row =>
      have whole : gap ++ ('\x7b' :: row ++ ['\x7d']) ++ rest = gap ++ '\x7b' :: (row ++ '\x7d' :: rest) := by simp
      have notList : ('\x7b' : Char) ≠ '[' := by decide
      unfold value
      dsimp only
      rw [whole, skipSpace_append_cons space (by decide)]
      simp only [notList, if_false, if_true, h.objectRest members_row, bind, Except.bind, pure, Except.pure]

/-- `value depth` reads a text as what it `Denotes depth`, and nothing else. -/
theorem exact_value (depth : Nat) : Exact (value depth) (Denotes depth) := by
  induction depth with
  | zero => exact exact_value_zero
  | succ depth ih => exact ih.value_succ

/-- `parseChars` reads a text as a value exactly if the text `Denotes` the value, white space at its ends
aside. -/
theorem parseChars_eq_ok_iff {cs : List Char} {v : Json} : parseChars cs = .ok v ↔
    ∃ before token behind,
      cs = before ++ token ++ behind ∧ IsGap before ∧ IsGap behind ∧ Denotes depthLimit v token := by
  constructor
  · intro read
    obtain ⟨⟨x, rest⟩, found, done⟩ := exists_of_bind read
    obtain ⟨gap, token, space, rfl, denoted⟩ := (exact_value depthLimit).sound _ _ _ found
    obtain ⟨gap', space', row⟩ := exists_gap rest
    dsimp only at done
    split at done
    next nothing =>
      cases done
      rw [nothing, List.append_nil] at row
      exact ⟨gap, token, rest, rfl, space, row ▸ space', denoted⟩
    next => cases done
  · rintro ⟨before, token, behind, rfl, space, space', denoted⟩
    have ends : Ends behind := by
      rw [← List.append_nil behind]
      exact space'.ends (by rintro c ⟨⟩)
    have nothing : skipSpace behind = [] := by
      rw [← List.append_nil behind, skipSpace_append space']
      rfl
    unfold parseChars whole
    rw [(exact_value depthLimit).complete before v token behind space denoted ends]
    simp only [bind, Except.bind, nothing, pure, Except.pure]

end Gazette.Json
