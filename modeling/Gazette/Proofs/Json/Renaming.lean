import Gazette.Proofs.Json.Denotation

/-!
# Renaming a key in a text

Where a comma, a key between quotes and a colon (`keyMark`) stand in a JSON text with nothing between them, they
are just that: a quote behind a comma closes a string if it stands in one, and then no colon can follow behind a
letter. So a text in which another key is written there denotes the value in which one member has this key
instead (`Denotes.relabel`). `Renamed old new` says how the two values differ, and `members?` gives the members
of an object as they stand in the text, those that are overwritten by later ones included.

The proof follows `Denotes`: a mark in a row stands in front of one of its items or in one (`Row.relabel`), and
a mark in a member stands in its value (`Member.relabel`).
-/

namespace Gazette.Json

/-! ## Marks -/

/-- A key of letters, which stands in a text as it is. -/
def IsWord (key : String) : Prop := ∀ c ∈ key.toList, c.isAlpha

instance (key : String) : Decidable (IsWord key) := decidable_of_iff (key.toList.all Char.isAlpha) List.all_eq_true

/-- The text `,"key":`. -/
def keyMark (key : String) : List Char := ',' :: '"' :: (key.toList ++ ['"', ':'])

theorem visible_and_ne_of_isAlpha {c : Char} (h : c.isAlpha) : IsVisible c ∧ c ≠ '"' ∧ c ≠ '\\' := by
  refine ⟨?_, ?_, ?_⟩
  · rcases Bool.or_eq_true_iff.1 h with upper | lower
    · have low : 'A'.val ≤ c.val := (of_decide_eq_true upper).1
      exact Nat.le_trans (by decide : 32 ≤ 65) (UInt32.le_iff_toNat_le.1 low)
    · have low : 'a'.val ≤ c.val := of_decide_eq_true (Bool.and_eq_true_iff.1 lower).1
      exact Nat.le_trans (by decide : 32 ≤ 97) (UInt32.le_iff_toNat_le.1 low)
  · rintro rfl
    exact absurd h (by decide)
  · rintro rfl
    exact absurd h (by decide)

section Marks

variable {key : String} {gap pre post xs ys : List Char}

/-- A word is `Quoted` by itself and a closing quote. -/
theorem IsWord.quoted (word : IsWord key) : Quoted key.toList (key.toList ++ ['"']) := by
  have letters : ∀ cs : List Char, (∀ c ∈ cs, c.isAlpha) → Quoted cs (cs ++ ['"']) := by
    intro cs alpha
    induction cs with
    | nil => exact .close
    | cons c cs ih =>
      obtain ⟨here, later⟩ := List.forall_mem_cons.1 alpha
      obtain ⟨visible, notQuote, notBackslash⟩ := visible_and_ne_of_isAlpha here
      exact .char visible notQuote notBackslash (ih later)
  exact letters _ word

/-- Behind its comma a `keyMark` has neither white space nor commas. -/
theorem IsWord.not_stops (word : IsWord key) : ∀ c ∈ '"' :: (key.toList ++ ['"', ':']), ¬ (isSpace c ∨ c = ',') := by
  intro c mem
  simp only [List.mem_cons, List.mem_append, List.not_mem_nil, or_false] at mem
  rcases mem with rfl | letter | rfl | rfl
  · decide
  · have alpha := word c letter
    rintro (space | rfl)
    · simp only [isSpace, Bool.or_eq_true, beq_iff_eq] at space
      rcases space with ((rfl | rfl) | rfl) | rfl <;> exact absurd alpha (by decide)
    · exact absurd alpha (by decide)
  · decide
  · decide

/-- A run in the middle of another one stands in front of a place in it, behind that place, or on both sides. -/
theorem append_append_cases {mark : List Char} (row : pre ++ mark ++ post = xs ++ ys) :
    (∃ pre', pre = xs ++ pre' ∧ ys = pre' ++ mark ++ post) ∨
    (∃ post', xs = pre ++ mark ++ post' ∧ post = post' ++ ys) ∨
    ∃ front back, front ≠ [] ∧ back ≠ [] ∧ mark = front ++ back ∧ xs = pre ++ front ∧ ys = back ++ post := by
  rw [List.append_assoc] at row
  rcases List.append_eq_append_iff.1 row with ⟨spare, rfl, inner⟩ | ⟨pre', rfl, rfl⟩
  · rcases List.append_eq_append_iff.1 inner with ⟨post', rfl, rfl⟩ | ⟨back, rfl, rfl⟩
    · exact .inr (.inl ⟨post', by simp, rfl⟩)
    · cases spare with
      | nil => exact .inl ⟨[], by simp, by simp⟩
      | cons c spare =>
        cases back with
        | nil => exact .inr (.inl ⟨[], by simp, rfl⟩)
        | cons d back => exact .inr (.inr ⟨c :: spare, d :: back, by simp, by simp, rfl, rfl, rfl⟩)
  · exact .inl ⟨pre', rfl, by simp⟩

theorem IsGap.comma_not_mem (space : IsGap gap) : ',' ∉ gap :=
  fun mem ↦ absurd (space _ mem) (by decide)

theorem IsGap.head (space : IsGap gap) {c : Char} {rest : List Char} :
    ∀ d ∈ (gap ++ c :: rest).head?, isSpace d ∨ d = c := by
  intro d mem
  cases gap with
  | nil =>
    cases mem
    exact .inr rfl
  | cons e gap =>
    cases mem
    exact .inl (space d List.mem_cons_self)

theorem IsGap.eq_nil (space : IsGap gap) {c : Char} (visible : ¬ isSpace c) (row : gap ++ xs = c :: ys) : gap = [] := by
  cases gap with
  | nil => rfl
  | cons d gap =>
    obtain rfl : d = c := (List.cons.inj row).1
    exact absurd (space d List.mem_cons_self) visible

/-- A `keyMark` does not begin in white space. -/
theorem keyMark_of_isGap (space : IsGap gap) (row : pre ++ keyMark key ++ post = gap ++ ys) :
    ∃ pre', pre = gap ++ pre' ∧ ys = pre' ++ keyMark key ++ post := by
  rcases append_append_cases row with behind | ⟨post', rfl, -⟩ | ⟨front, back, some, -, mark, rfl, -⟩
  · exact behind
  · exact absurd (by simp [keyMark]) space.comma_not_mem
  · cases front with
    | nil => exact absurd rfl some
    | cons c front =>
      obtain rfl : ',' = c := (List.cons.inj mark).1
      exact absurd (by simp) space.comma_not_mem

/-- A `keyMark` does not go on behind a place where white space or a comma follows. -/
theorem keyMark_cases (word : IsWord key) (stops : ∀ c ∈ ys.head?, isSpace c ∨ c = ',')
    (row : pre ++ keyMark key ++ post = xs ++ ys) :
    (∃ pre', pre = xs ++ pre' ∧ ys = pre' ++ keyMark key ++ post) ∨
    ∃ post', xs = pre ++ keyMark key ++ post' ∧ post = post' ++ ys := by
  rcases append_append_cases row with behind | before | ⟨front, back, some, some', mark, rfl, rfl⟩
  · exact .inl behind
  · exact .inr before
  · exfalso
    cases front with
    | nil => exact some rfl
    | cons d front =>
      cases back with
      | nil => exact some' rfl
      | cons c back =>
        have mem : c ∈ '"' :: (key.toList ++ ['"', ':']) := by
          rw [(List.cons.inj mark).2]
          simp
        exact word.not_stops c mem (stops c rfl)

end Marks

/-! ## Rows with a mark -/

/-- `Relabels old new within m m'`: the member `m'` is `m` under the key `new` in the place of `old`, or under its
own key with a value that `within` relates to that of `m`. -/
def Relabels (old new : String) (within : Json → Json → Prop) (m m' : String × Json) : Prop :=
  (m.1 = old ∧ m'.1 = new ∧ m.2 = m'.2) ∨ (m.1 = m'.1 ∧ within m.2 m'.2)

section Rows

variable {α : Type} {denotes : α → List Char → Prop} {relates : α → α → Prop} {old new : String} {first : Bool}
  {xs : List α} {row pre post : List Char}

/-- Behind an item of a `Row` stands white space or a comma. -/
theorem Row.stops (h : Row denotes false xs row) : ∀ c ∈ row.head?, isSpace c ∨ c = ',' := by
  cases h with
  | nil space => exact fun c mem ↦ .inl (space c (List.mem_of_mem_head? mem))
  | cons space =>
    simp only [comma, Bool.false_eq_true, if_false, List.append_assoc, List.singleton_append]
    exact space.head

/-- A `keyMark` in a `Row` stands at the comma in front of an item or in an item, so one item changes with it. -/
theorem Row.relabel (word : IsWord old)
    (within : ∀ x pre post, denotes x (pre ++ keyMark old ++ post) →
      ∃ x', relates x x' ∧ denotes x' (pre ++ keyMark new ++ post))
    (atFront : ∀ x cs more post, denotes x cs → (∀ c ∈ more.head?, isSpace c ∨ c = ',') →
      ',' :: (cs ++ more) = keyMark old ++ post →
      ∃ x' cs', relates x x' ∧ denotes x' cs' ∧ ',' :: (cs' ++ more) = keyMark new ++ post)
    (h : Row denotes first xs row) (marked : row = pre ++ keyMark old ++ post) :
    ∃ before x x' behind, xs = before ++ x :: behind ∧ relates x x' ∧
      Row denotes first (before ++ x' :: behind) (pre ++ keyMark new ++ post) := by
  induction h generalizing pre with
  | @nil first gap space =>
    have mem : ',' ∈ gap := by
      rw [marked]
      simp [keyMark]
    exact absurd mem space.comma_not_mem
  | @cons first x xs lead gap cs more space space' item others ih =>
    -- Behind the comma the mark stands in the item or behind it.
    have goesOn (pre' : List Char) (inner : pre' ++ keyMark old ++ post = gap ++ (cs ++ more)) :
        ∃ before y y' behind, x :: xs = before ++ y :: behind ∧ relates y y' ∧
          Row denotes first (before ++ y' :: behind) (lead ++ comma first ++ pre' ++ keyMark new ++ post) := by
      obtain ⟨pre'', rfl, visible⟩ := keyMark_of_isGap space' inner
      rcases keyMark_cases word others.stops visible.symm with ⟨spare, rfl, later⟩ | ⟨post', rfl, rfl⟩
      · obtain ⟨before, y, y', behind, rfl, related, others⟩ := ih later
        refine ⟨x :: before, y, y', behind, rfl, related, ?_⟩
        have whole : Row denotes first _ _ := .cons space space' item others
        simpa only [List.append_assoc, List.cons_append] using whole
      · obtain ⟨x', related, item⟩ := within x _ _ item
        refine ⟨[], x, x', xs, rfl, related, ?_⟩
        have whole : Row denotes first _ _ := .cons space space' item others
        simpa only [List.append_assoc, List.nil_append] using whole
    have split : pre ++ keyMark old ++ post = lead ++ (comma first ++ (gap ++ (cs ++ more))) := by
      rw [← marked]
      simp only [List.append_assoc]
    obtain ⟨pre', rfl, inner⟩ := keyMark_of_isGap space split
    cases first with
    | true =>
      have whole := goesOn pre' inner.symm
      simpa only [comma, if_true, List.append_nil] using whole
    | false =>
      cases pre' with
      | nil =>
        obtain rfl : gap = [] := space'.eq_nil (by decide) (List.cons.inj inner).2
        obtain ⟨x', cs', related, item, marked'⟩ := atFront x cs more post item others.stops inner
        refine ⟨[], x, x', xs, rfl, related, ?_⟩
        have whole : Row denotes false _ _ := .cons space isGap_nil item others
        simpa only [comma, Bool.false_eq_true, if_false, List.append_assoc, List.singleton_append, List.cons_append,
          List.append_nil, List.nil_append, marked'] using whole
      | cons c pre' =>
        obtain ⟨rfl, behind⟩ := List.cons.inj inner
        have whole := goesOn pre' behind.symm
        simpa only [comma, Bool.false_eq_true, if_false, List.append_assoc, List.singleton_append] using whole

end Rows

/-! ## Members with a mark -/

section Members

variable {denotes : Json → List Char → Prop} {within : Json → Json → Prop} {old new : String}
  {body token gap pre post rest : List Char}

theorem IsWord.head (word : IsWord old) (rest : List Char) :
    ∀ c ∈ (old.toList ++ '"' :: rest).head?, ¬ isSpace c ∧ c ≠ ':' := by
  intro c mem
  cases letters : old.toList with
  | nil =>
    rw [letters] at mem
    cases mem
    decide
  | cons d letters' =>
    rw [letters] at mem
    cases mem
    have alpha := word c (letters ▸ List.mem_cons_self)
    constructor
    · intro space
      exact word.not_stops c (by simp [letters]) (.inl space)
    · rintro rfl
      exact absurd alpha (by decide)

/-- A `keyMark` does not begin in a key, nor in front of the colon behind it. -/
theorem keyMark_of_key (word : IsWord old) (key : Quoted body token) (space : IsGap gap)
    (row : pre ++ keyMark old ++ post = '"' :: token ++ (gap ++ ':' :: rest)) :
    ∃ pre', pre = '"' :: token ++ gap ++ ':' :: pre' ∧ rest = pre' ++ keyMark old ++ post := by
  -- The quote behind the comma decides: it does not stand behind the key, and in the key it would close it.
  have split : pre ++ [',', '"'] ++ (old.toList ++ '"' :: ':' :: post) = '"' :: token ++ (gap ++ ':' :: rest) := by
    rw [← row]
    simp [keyMark]
  rcases append_append_cases split with ⟨pre', rfl, behind⟩ | ⟨post', inside, behind⟩ |
    ⟨front, back, some, some', mark, -, behind⟩
  · have marked : pre' ++ keyMark old ++ post = gap ++ ':' :: rest := by
      rw [behind]
      simp [keyMark]
    obtain ⟨pre'', rfl, here⟩ := keyMark_of_isGap space marked
    cases pre'' with
    | nil => exact absurd (List.cons.inj here).1 (by decide)
    | cons c pre'' =>
      obtain ⟨rfl, later⟩ := List.cons.inj here
      exact ⟨pre'', by simp, later⟩
  · exfalso
    cases pre with
    | nil => exact absurd (List.cons.inj inside).1 (by decide)
    | cons c pre =>
      have string : token = pre ++ ',' :: '"' :: post' := by simpa using (List.cons.inj inside).2
      rw [key.eq_nil_of_comma string, List.nil_append] at behind
      cases there : (gap ++ ':' :: rest).head? with
      | none => cases gap <;> cases there
      | some c =>
        obtain ⟨visible, notColon⟩ := word.head (':' :: post) c (behind ▸ there)
        exact (space.head c there).elim visible notColon
  · exfalso
    rcases front with _ | ⟨c, _ | ⟨d, front⟩⟩
    · exact some rfl
    · obtain rfl : back = ['"'] := (List.cons.inj mark).2.symm
      have quote : '"' ∈ (gap ++ ':' :: rest).head? := by
        rw [behind]
        rfl
      exact absurd (space.head _ quote) (by decide)
    · have short := congrArg List.length mark
      have long := List.length_pos_iff.2 some'
      simp only [List.length_cons, List.length_append, List.length_nil] at short
      omega

/-- A `keyMark` in a `Member` stands in its value. -/
theorem Member.relabel (word : IsWord old)
    (parts : ∀ v pre post, denotes v (pre ++ keyMark old ++ post) →
      ∃ v', within v v' ∧ denotes v' (pre ++ keyMark new ++ post))
    (m : String × Json) (pre post : List Char) (h : Member denotes m (pre ++ keyMark old ++ post)) :
    ∃ m', Relabels old new within m m' ∧ Member denotes m' (pre ++ keyMark new ++ post) := by
  generalize row : pre ++ keyMark old ++ post = text at h
  cases h with
  | @mk body token gap gap' cs v key space space' value =>
    obtain ⟨pre', rfl, behind⟩ := keyMark_of_key word key space (row.trans (List.append_assoc _ _ _))
    obtain ⟨pre'', rfl, inner⟩ := keyMark_of_isGap space' behind.symm
    rw [inner] at value
    obtain ⟨v', related, value'⟩ := parts v _ _ value
    refine ⟨(String.ofList body, v'), .inr ⟨rfl, related⟩, ?_⟩
    have whole := Member.mk key space space' value'
    simpa only [List.append_assoc, List.cons_append] using whole

/-- A `keyMark` that begins at the comma in front of a `Member` is its key. -/
theorem Member.relabel_key (word : IsWord old) (word' : IsWord new) (m : String × Json) (cs more post : List Char)
    (h : Member denotes m cs) (marked : ',' :: (cs ++ more) = keyMark old ++ post) :
    ∃ m' cs', Relabels old new within m m' ∧ Member denotes m' cs' ∧ ',' :: (cs' ++ more) = keyMark new ++ post := by
  cases h with
  | @mk body token gap gap' cs v key space space' value =>
    have row : token ++ (gap ++ ':' :: (gap' ++ cs ++ more)) = old.toList ++ ['"'] ++ ':' :: post := by
      simpa [keyMark] using marked
    obtain ⟨rfl, behind⟩ := key.unique word.quoted row
    obtain rfl : gap = [] := space.eq_nil (by decide) behind
    refine ⟨(new, v), '"' :: (new.toList ++ ['"']) ++ [] ++ ':' :: (gap' ++ cs),
      .inl ⟨String.ofList_toList, rfl, rfl⟩, ?_, ?_⟩
    · have whole : Member denotes _ _ := .mk word'.quoted isGap_nil space' value
      rwa [String.ofList_toList] at whole
    · have rest : gap' ++ cs ++ more = post := (List.cons.inj behind).2
      rw [← rest]
      simp [keyMark]

end Members

/-! ## Values with a mark -/

/-- `Renamed old new v v'`: the values differ in the key of one member of one of their objects, `new` standing in
the place of `old`. -/
inductive Renamed (old new : String) : Json → Json → Prop
  /-- Lists that differ in one item. -/
  | item {before behind : List Json} {v v' : Json} (within : Renamed old new v v') :
      Renamed old new (.array (before ++ v :: behind)) (.array (before ++ v' :: behind))
  /-- Objects that differ in the value of one member. -/
  | value {before behind : List (String × Json)} {key : String} {v v' : Json} (within : Renamed old new v v') :
      Renamed old new (ofMembers (before ++ (key, v) :: behind)) (ofMembers (before ++ (key, v') :: behind))
  /-- Objects that differ in the key of one member. -/
  | key {before behind : List (String × Json)} {v : Json} :
      Renamed old new (ofMembers (before ++ (old, v) :: behind)) (ofMembers (before ++ (new, v) :: behind))

section Values

variable {old new : String} {v : Json} {c : Char} {token gap gap' pre post : List Char}

/-- Objects are `Renamed` if one member of each `Relabels` so. -/
theorem Relabels.renamed {m m' : String × Json} (h : Relabels old new (Renamed old new) m m')
    (before behind : List (String × Json)) :
    Renamed old new (ofMembers (before ++ m :: behind)) (ofMembers (before ++ m' :: behind)) := by
  obtain ⟨key, v⟩ := m
  obtain ⟨key', v'⟩ := m'
  rcases h with ⟨rfl, rfl, same⟩ | ⟨same, within⟩
  · cases same
    exact .key
  · cases same
    exact .value within

theorem IsScalar.not_marked (h : IsScalar v c token) : c :: token ≠ pre ++ keyMark old ++ post := by
  intro row
  have closed := h.closes pre (old.toList ++ '"' :: ':' :: post) (by simpa [keyMark] using row)
  exact absurd (congrArg List.length closed) (by simp)

/-- A `keyMark` does not stand with its comma in front of a token. -/
theorem IsScalar.not_front (word : IsWord old) (h : IsScalar v c token) {more : List Char}
    (stops : ∀ d ∈ more.head?, isSpace d ∨ d = ',') : ',' :: (c :: token ++ more) ≠ keyMark old ++ post := by
  intro marked
  obtain ⟨rfl, row⟩ : c = '"' ∧ token ++ more = old.toList ++ ['"'] ++ ':' :: post := by
    simpa [keyMark] using marked
  have ends : Ends more := by
    intro d mem
    rcases stops d mem with space | rfl
    · exact not_isNumberChar_of_isSpace space
    · decide
  -- What is read is the word between quotes, so a colon stands behind it.
  have read := h.reads more ends
  rw [scalar_quote, row, word.quoted.stringRest] at read
  obtain ⟨-, colon⟩ := Prod.mk.inj (Except.ok.inj read)
  exact absurd (stops ':' (colon ▸ rfl)) (by decide)

/-- A `keyMark` does not stand with its comma in front of a value. -/
theorem Denotes.not_front (word : IsWord old) {depth : Nat} {cs more : List Char} (h : Denotes depth v cs)
    (stops : ∀ d ∈ more.head?, isSpace d ∨ d = ',') : ',' :: (cs ++ more) ≠ keyMark old ++ post := by
  cases depth with
  | zero =>
    obtain ⟨c, token, rfl, scalar⟩ := h
    exact scalar.not_front word stops
  | succ depth =>
    cases h with
    | scalar scalar => exact scalar.not_front word stops
    | array =>
      intro marked
      exact absurd (List.cons.inj (List.cons.inj marked).2).1 (by decide)
    | object =>
      intro marked
      exact absurd (List.cons.inj (List.cons.inj marked).2).1 (by decide)

/-- A `keyMark` in a bracketed run stands between the brackets. -/
theorem keyMark_of_brackets {opening closing : Char} (notComma : opening ≠ ',') (notColon : closing ≠ ':')
    {row : List Char} (marked : pre ++ keyMark old ++ post = opening :: row ++ [closing]) :
    ∃ pre' post', pre = opening :: pre' ∧ post = post' ++ [closing] ∧ row = pre' ++ keyMark old ++ post' := by
  cases pre with
  | nil => exact absurd (List.cons.inj marked).1.symm notComma
  | cons c pre =>
    obtain ⟨rfl, inner⟩ := List.cons.inj marked
    rcases append_append_cases inner with ⟨pre', rfl, behind⟩ | ⟨post', rfl, rfl⟩ |
      ⟨front, back, -, some, mark, rfl, behind⟩
    · have short := congrArg List.length behind
      simp only [keyMark, List.length_append, List.length_cons, List.length_nil] at short
      omega
    · exact ⟨pre, post', rfl, rfl, rfl⟩
    · exfalso
      rcases back with _ | ⟨d, _ | ⟨e, back⟩⟩
      · exact some rfl
      · have last : ',' :: '"' :: (old.toList ++ ['"']) ++ [':'] = front ++ [d] := by
          rw [← mark]
          simp [keyMark]
        have colon : [':'] = [d] := (List.append_inj' last rfl).2
        exact notColon ((List.cons.inj behind).1.trans (List.cons.inj colon).1.symm)
      · exact absurd (List.cons.inj behind).2.symm (by simp)

/-- A `keyMark` in a run with white space around it stands in the run. -/
theorem keyMark_of_gaps (word : IsWord old) (space : IsGap gap) (space' : IsGap gap')
    (marked : pre ++ keyMark old ++ post = gap ++ token ++ gap') :
    ∃ pre' post', pre = gap ++ pre' ∧ post = post' ++ gap' ∧ token = pre' ++ keyMark old ++ post' := by
  obtain ⟨pre', rfl, inner⟩ := keyMark_of_isGap space (marked.trans (List.append_assoc _ _ _))
  have stops : ∀ c ∈ gap'.head?, isSpace c ∨ c = ',' := fun c mem ↦ .inl (space' c (List.mem_of_mem_head? mem))
  rcases keyMark_cases word stops inner.symm with ⟨pre'', -, behind⟩ | ⟨post', rfl, rfl⟩
  · have mem : ',' ∈ gap' := by
      rw [behind]
      simp [keyMark]
    exact absurd mem space'.comma_not_mem
  · exact ⟨pre', post', rfl, rfl, rfl⟩

/-- A `keyMark` among members changes one of them. -/
theorem Row.relabel_members (word : IsWord old) (word' : IsWord new) {denotes : Json → List Char → Prop}
    (parts : ∀ v pre post, denotes v (pre ++ keyMark old ++ post) →
      ∃ v', Renamed old new v v' ∧ denotes v' (pre ++ keyMark new ++ post))
    {members : List (String × Json)} {row : List Char} (h : Row (Member denotes) true members row)
    (marked : row = pre ++ keyMark old ++ post) :
    ∃ before m m' behind, members = before ++ m :: behind ∧ Relabels old new (Renamed old new) m m' ∧
      Row (Member denotes) true (before ++ m' :: behind) (pre ++ keyMark new ++ post) :=
  h.relabel word (Member.relabel word parts)
    (fun m cs more post member _ ↦ member.relabel_key word word' m cs more post) marked

/-- Where a `keyMark` stands in a text that `Denotes` a value, the text with another key denotes a `Renamed`
value. -/
theorem Denotes.relabel (word : IsWord old) (word' : IsWord new) {depth : Nat} : ∀ v pre post,
    Denotes depth v (pre ++ keyMark old ++ post) →
      ∃ v', Renamed old new v v' ∧ Denotes depth v' (pre ++ keyMark new ++ post) := by
  induction depth with
  | zero =>
    rintro v pre post ⟨c, token, row, scalar⟩
    exact absurd row.symm scalar.not_marked
  | succ depth ih =>
    intro v pre post h
    generalize marked : pre ++ keyMark old ++ post = text at h
    cases h with
    | scalar scalar => exact absurd marked.symm scalar.not_marked
    | array items_row =>
      obtain ⟨pre', post', rfl, rfl, rfl⟩ := keyMark_of_brackets (by decide) (by decide) marked
      obtain ⟨before, x, x', behind, rfl, related, row⟩ := items_row.relabel word ih
        (fun x cs more post denoted stops row ↦ absurd row (denoted.not_front word stops)) rfl
      refine ⟨.array (before ++ x' :: behind), .item related, ?_⟩
      have whole : Denotes (depth + 1) _ _ := .array row
      simpa only [List.append_assoc, List.cons_append] using whole
    | object members_row =>
      obtain ⟨pre', post', rfl, rfl, rfl⟩ := keyMark_of_brackets (by decide) (by decide) marked
      obtain ⟨before, m, m', behind, rfl, related, row⟩ := members_row.relabel_members word word' ih rfl
      refine ⟨ofMembers (before ++ m' :: behind), related.renamed before behind, ?_⟩
      have whole : Denotes (depth + 1) _ _ := .object row
      simpa only [List.append_assoc, List.cons_append] using whole

end Values

/-! ## Texts with a mark -/

/-- The members of the object that `cs` is read as, in the order of the text, those that later ones take the place
of included. -/
def members? (cs : List Char) : Option (List (String × Json)) :=
  match skipSpace cs with
  | '\x7b' :: rest =>
    match objectRest (value (depthLimit - 1)) rest with
    | .ok (members, behind) => if (skipSpace behind).isEmpty then some members else none
    | .error _ => none
  | _ => none

section Texts

variable {old new : String} {cs pre post : List Char} {members : List (String × Json)} {v : Json}

/-- `members?` are the members of a text that stand in a `Row` between braces. -/
theorem members?_eq_some_iff : members? cs = some members ↔
    ∃ before row behind, cs = before ++ ('\x7b' :: row ++ ['\x7d']) ++ behind ∧ IsGap before ∧ IsGap behind ∧
      Row (Member (Denotes (depthLimit - 1))) true members row := by
  have exact := exact_value (depthLimit - 1)
  constructor
  · intro found
    obtain ⟨before, space, row⟩ := exists_gap cs
    unfold members? at found
    split at found
    next rest brace =>
      split at found
      next members' behind object =>
        obtain ⟨inner, rfl, members_row⟩ := exact.row_of_objectRest object
        obtain ⟨gap, space', row'⟩ := exists_gap behind
        split at found
        next nothing =>
          cases found
          rw [List.isEmpty_iff.1 nothing, List.append_nil] at row'
          refine ⟨before, inner, behind, ?_, space, row' ▸ space', members_row⟩
          rw [row, brace]
          simp
        next => cases found
      next => cases found
    next => cases found
  · rintro ⟨before, row, behind, rfl, space, space', members_row⟩
    have whole : before ++ ('\x7b' :: row ++ ['\x7d']) ++ behind = before ++ '\x7b' :: (row ++ '\x7d' :: behind) := by
      simp
    have nothing : skipSpace behind = [] := by
      rw [← List.append_nil behind, skipSpace_append space']
      rfl
    unfold members?
    rw [whole, skipSpace_append_cons space (by decide)]
    simp only [exact.objectRest members_row, nothing, List.isEmpty_nil, if_true]

/-- `parseChars` reads a text as the object that `ofMembers` makes of its `members?`. -/
theorem parseChars_of_members? (h : members? cs = some members) : parseChars cs = .ok (ofMembers members) := by
  obtain ⟨before, row, behind, rfl, space, space', members_row⟩ := members?_eq_some_iff.1 h
  exact parseChars_eq_ok_iff.2 ⟨before, _, behind, rfl, space, space', .object members_row⟩

theorem scalar_ne_object {c : Char} {rest : List Char} {sorted : List (String × Json)} :
    scalar c cs ≠ .ok (.object sorted, rest) := by
  intro read
  unfold scalar at read
  repeat'
    split at read
    next =>
      obtain ⟨_, -, done⟩ := exists_of_bind read
      cases done
  cases read

/-- A text that `parseChars` reads as an object has `members?`. -/
theorem exists_members? {sorted : List (String × Json)} (read : parseChars cs = .ok (.object sorted)) :
    ∃ members, members? cs = some members ∧ ofMembers members = .object sorted := by
  obtain ⟨before, token, behind, rfl, space, space', denoted⟩ := parseChars_eq_ok_iff.1 read
  generalize value : Json.object sorted = v at denoted
  cases denoted with
  | @scalar v c token scalar =>
    rw [← value] at scalar
    exact absurd (scalar.reads [] (by rintro c ⟨⟩)) scalar_ne_object
  | array => cases value
  | @object members row members_row =>
    exact ⟨members, members?_eq_some_iff.2 ⟨before, row, behind, rfl, space, space', members_row⟩, rfl⟩

/-- With another key at a `keyMark`, one of the `members?` changes as `Relabels` says. -/
theorem members?_relabel (word : IsWord old) (word' : IsWord new)
    (h : members? (pre ++ keyMark old ++ post) = some members) :
    ∃ before m m' behind, members = before ++ m :: behind ∧ Relabels old new (Renamed old new) m m' ∧
      members? (pre ++ keyMark new ++ post) = some (before ++ m' :: behind) := by
  obtain ⟨gap, row, gap', marked, space, space', members_row⟩ := members?_eq_some_iff.1 h
  obtain ⟨pre', post', rfl, rfl, inside⟩ := keyMark_of_gaps word space space' marked
  obtain ⟨pre'', post'', rfl, rfl, rfl⟩ := keyMark_of_brackets (by decide) (by decide) inside.symm
  obtain ⟨before, m, m', behind, rfl, related, row⟩ :=
    members_row.relabel_members word word' (Denotes.relabel word word') rfl
  refine ⟨before, m, m', behind, rfl, related, members?_eq_some_iff.2 ⟨gap, _, gap', ?_, space, space', row⟩⟩
  simp only [List.append_assoc, List.cons_append]

/-- With another key at a `keyMark`, `parseChars` reads a text as a `Renamed` value. -/
theorem parseChars_relabel (word : IsWord old) (word' : IsWord new)
    (read : parseChars (pre ++ keyMark old ++ post) = .ok v) :
    ∃ v', Renamed old new v v' ∧ parseChars (pre ++ keyMark new ++ post) = .ok v' := by
  obtain ⟨gap, token, gap', marked, space, space', denoted⟩ := parseChars_eq_ok_iff.1 read
  obtain ⟨pre', post', rfl, rfl, rfl⟩ := keyMark_of_gaps word space space' marked
  obtain ⟨v', related, denoted'⟩ := denoted.relabel word word'
  refine ⟨v', related, parseChars_eq_ok_iff.2 ⟨gap, _, gap', ?_, space, space', denoted'⟩⟩
  simp only [List.append_assoc]

end Texts

end Gazette.Json
