import Gazette.Chars.Cut

/-!
# Pieces of runs

A search for a mark (`after?`, `cut?`, `firstSome?`) stops where the mark stands first, so what is put behind a
run is not looked at unless the run is without the mark. Cutting at all places of a mark (`splitAtChar`,
`splitAtMark`, `splitOn`) leaves at least one piece, and a run put behind another one goes on with the last
piece of that one. What `joinWith` joined with marks between its parts, `splitAtChar` cuts into these parts
again (`splitAtChar_joinWith`).
-/

namespace Gazette.Chars

/-! ## Where a mark stands -/

section Marks

variable {α : Type} {mark cs head rest : List Char}

/-- What `after?` takes off is the mark. -/
theorem append_of_after? (h : after? mark cs = some rest) : cs = mark ++ rest := by
  induction mark generalizing cs with
  | nil => exact Option.some.inj h
  | cons a mark ih =>
    cases cs with
    | nil => cases h
    | cons c cs =>
      simp only [after?] at h
      split at h
      next same => rw [ih h, same, List.cons_append]
      next => cases h

/-- `after?` finds a mark that stands in front, and leaves the rest. -/
theorem after?_append (mark rest : List Char) : after? mark (mark ++ rest) = some rest := by
  induction mark with
  | nil => rfl
  | cons a mark ih => rw [List.cons_append, after?, if_pos rfl, ih]

/-- `after?` finds a mark of one character that stands in front. -/
theorem after?_cons (c : Char) (rest : List Char) : after? [c] (c :: rest) = some rest := after?_append [c] rest

/-- `dropLead` drops a mark in front. -/
theorem dropLead_append (mark rest : List Char) : dropLead mark (mark ++ rest) = rest := by
  rw [dropLead, after?_append, Option.getD_some]

/-- `dropTail` drops a mark at the back. -/
theorem dropTail_append (mark front : List Char) : dropTail mark (front ++ mark) = front := by
  rw [dropTail, before?, List.reverse_append, after?_append, Option.map_some, Option.getD_some,
    List.reverse_reverse]

/-- `cut?` cuts where the mark stands. -/
theorem append_of_cut? (h : cut? mark cs = some (head, rest)) : cs = head ++ mark ++ rest := by
  induction cs generalizing head with
  | nil =>
    obtain ⟨behind, found, same⟩ := Option.map_eq_some_iff.1 h
    cases same
    exact append_of_after? found
  | cons c cs ih =>
    simp only [cut?] at h
    split at h
    next found =>
      cases h
      exact append_of_after? found
    next =>
      obtain ⟨⟨front, behind⟩, found, same⟩ := Option.map_eq_some_iff.1 h
      cases same
      rw [ih found]
      rfl

/-- The answer of `firstPlace?` is one for what stands behind the place that it names. -/
theorem append_of_firstPlace? {f : List Char → Option α} {a : α} (h : firstPlace? f cs = some (head, a)) :
    ∃ tail, cs = head ++ tail ∧ f tail = some a := by
  induction cs generalizing head with
  | nil =>
    obtain ⟨b, found, same⟩ := Option.map_eq_some_iff.1 h
    cases same
    exact ⟨[], rfl, found⟩
  | cons c cs ih =>
    simp only [firstPlace?] at h
    split at h
    next found =>
      cases h
      exact ⟨c :: cs, rfl, found⟩
    next =>
      obtain ⟨⟨front, b⟩, found, same⟩ := Option.map_eq_some_iff.1 h
      cases same
      obtain ⟨tail, rfl, answer⟩ := ih found
      exact ⟨tail, rfl, answer⟩

/-- `firstSome?` takes the answer for the whole run, if there is one. -/
theorem firstSome?_of_some {f : List Char → Option α} {a : α} (here : f cs = some a) : firstSome? f cs = some a := by
  cases cs with
  | nil => exact here
  | cons c cs => rw [firstSome?, here]

/-- Without an answer for the whole run `firstSome?` goes on behind the first character. -/
theorem firstSome?_of_none {f : List Char → Option α} {c : Char} (none : f (c :: cs) = none) :
    firstSome? f (c :: cs) = firstSome? f cs := by
  rw [firstSome?, none]

/-- `cut?` cuts at the first place of a character. -/
theorem cut?_append_cons {mark : Char} (first : mark ∉ cs) (ds : List Char) :
    cut? [mark] (cs ++ mark :: ds) = some (cs, ds) := by
  induction cs with
  | nil => simp [cut?, after?]
  | cons c cs ih =>
    obtain ⟨other, rest⟩ := List.ne_and_not_mem_of_not_mem_cons first
    simp [cut?, after?, other, ih rest]

/-- With a mark of two characters behind a run, `cut?` cuts in the run as before, or else at that mark. -/
theorem cut?_append_pair {a b : Char} (other : a ≠ b) (cs ds : List Char) :
    cut? [a, b] (cs ++ a :: b :: ds) =
      ((cut? [a, b] cs).map fun (head, rest) ↦ (head, rest ++ a :: b :: ds)).or (some (cs, ds)) := by
  induction cs with
  | nil => simp [cut?, after?]
  | cons c cs ih =>
    have here : after? [a, b] (c :: cs ++ a :: b :: ds) = (after? [a, b] (c :: cs)).map (· ++ a :: b :: ds) := by
      cases cs with
      | nil => simp [after?, Ne.symm other]
      | cons d cs => by_cases first : a = c <;> by_cases second : b = d <;> simp [after?, first, second]
    rw [List.cons_append] at here ⊢
    rw [cut?, cut?, here, ih]
    cases after? [a, b] (c :: cs) with
    | some rest => rfl
    | none => cases cut? [a, b] cs <;> rfl

/-- A run is cut in one way at the last place of a character: there is no `mark` in `back`. -/
theorem append_cons_inj_of_notMem_right {mark : Char} {front front' back back' : List Char} (free : mark ∉ back)
    (free' : mark ∉ back') (same : front ++ mark :: back = front' ++ mark :: back') :
    front = front' ∧ back = back' := by
  rcases List.append_eq_append_iff.1 same with ⟨more, row, rest⟩ | ⟨more, row, rest⟩
  · cases more with
    | nil =>
      rw [List.append_nil] at row
      exact ⟨row.symm, (List.cons.inj rest).2⟩
    | cons c more => exact absurd ((List.cons.inj rest).2 ▸ List.mem_append_right more List.mem_cons_self) free
  · cases more with
    | nil =>
      rw [List.append_nil] at row
      exact ⟨row, (List.cons.inj rest).2.symm⟩
    | cons c more => exact absurd ((List.cons.inj rest).2 ▸ List.mem_append_right more List.mem_cons_self) free'

end Marks

/-! ## Pieces between marks -/

/-- `splitAtChar` leaves at least one piece. -/
theorem splitAtChar_ne_nil (mark : Char) (cs : List Char) : splitAtChar mark cs ≠ [] := by
  fun_cases splitAtChar mark cs <;> exact List.cons_ne_nil _ _

/-- `splitAtMark` leaves at least one piece. -/
theorem splitAtMark_ne_nil (a : Char) (more cs : List Char) : splitAtMark a more cs ≠ [] := by
  fun_cases splitAtMark a more cs <;> exact List.cons_ne_nil _ _

/-- `splitOn` leaves at least one piece. -/
theorem splitOn_ne_nil (mark cs : List Char) : splitOn mark cs ≠ [] := by
  fun_cases splitOn mark cs with
  | case1 => exact List.cons_ne_nil _ _
  | case2 a => exact splitAtChar_ne_nil a cs
  | case3 a more => exact splitAtMark_ne_nil a more cs

/-- `splitAtChar` cuts two runs with the mark between them as it cuts each of them. -/
theorem splitAtChar_append_cons (mark : Char) (cs ds : List Char) :
    splitAtChar mark (cs ++ mark :: ds) = splitAtChar mark cs ++ splitAtChar mark ds := by
  induction cs with
  | nil => simp [splitAtChar]
  | cons c cs ih =>
    rw [List.cons_append, splitAtChar, splitAtChar, ih]
    split
    next => rfl
    next =>
      cases pieces : splitAtChar mark cs with
      | nil => exact absurd pieces (splitAtChar_ne_nil mark cs)
      | cons piece pieces => rfl

/-- `splitAtChar` leaves a run without the mark in one piece. -/
theorem splitAtChar_of_notMem {mark : Char} {cs : List Char} (absent : mark ∉ cs) : splitAtChar mark cs = [cs] := by
  induction cs with
  | nil => rfl
  | cons c cs ih =>
    obtain ⟨other, rest⟩ := List.ne_and_not_mem_of_not_mem_cons absent
    rw [splitAtChar, if_neg (Ne.symm other), ih rest]

/-- With `ds` put behind `cs`, the last piece of `cs` goes on with the first one of `ds`. -/
theorem splitAtChar_append {mark : Char} {cs ds last first : List Char} {pieces others : List (List Char)}
    (front : splitAtChar mark cs = pieces ++ [last]) (back : splitAtChar mark ds = first :: others) :
    splitAtChar mark (cs ++ ds) = pieces ++ (last ++ first) :: others := by
  induction cs generalizing pieces last with
  | nil =>
    cases pieces with
    | nil =>
      obtain rfl : [] = last := List.head_eq_of_cons_eq front
      exact back
    | cons piece pieces => cases pieces <;> cases front
  | cons c cs ih =>
    obtain ⟨piece, more, split⟩ := List.exists_cons_of_ne_nil (splitAtChar_ne_nil mark cs)
    rw [List.cons_append]
    by_cases same : c = mark
    · rw [splitAtChar, if_pos same] at front ⊢
      cases pieces with
      | nil => exact absurd (List.tail_eq_of_cons_eq front) (splitAtChar_ne_nil mark cs)
      | cons _ pieces =>
        cases List.head_eq_of_cons_eq front
        rw [ih (List.tail_eq_of_cons_eq front), List.cons_append]
    · rw [splitAtChar, if_neg same, split] at front
      rw [splitAtChar, if_neg same]
      cases pieces with
      | nil =>
        cases front
        have rest : splitAtChar mark (cs ++ ds) = [] ++ (piece ++ first) :: others := ih split
        rw [rest]
        rfl
      | cons _ pieces =>
        cases front
        have rest : splitAtChar mark (cs ++ ds) = piece :: pieces ++ (last ++ first) :: others := ih split
        rw [rest]
        rfl

/-- `joinWith` puts the mark between two parts. -/
theorem joinWith_pair (mark : Char) (front back : List Char) : joinWith [mark] [front, back] = front ++ mark :: back :=
  List.append_assoc front [mark] back

/-- `joinWith` brings in no character but the mark. -/
theorem mem_joinWith {mark c : Char} {parts : List (List Char)} (mem : c ∈ joinWith [mark] parts) :
    c = mark ∨ ∃ part ∈ parts, c ∈ part := by
  fun_induction joinWith [mark] parts with
  | case1 => cases mem
  | case2 part => exact .inr ⟨part, List.mem_singleton_self part, mem⟩
  | case3 part parts several ih =>
    rcases List.mem_append.1 mem with front | rest
    · rcases List.mem_append.1 front with here | same
      · exact .inr ⟨part, List.mem_cons_self, here⟩
      · exact .inl (List.mem_singleton.1 same)
    · exact (ih rest).imp_right fun ⟨other, later, held⟩ ↦ ⟨other, List.mem_cons_of_mem part later, held⟩

/-- `splitAtChar` undoes `joinWith` where no part has the mark. -/
theorem splitAtChar_joinWith {mark : Char} {parts : List (List Char)} (several : parts ≠ [])
    (absent : ∀ part ∈ parts, mark ∉ part) : splitAtChar mark (joinWith [mark] parts) = parts := by
  induction parts with
  | nil => exact absurd rfl several
  | cons part parts ih =>
    obtain ⟨first, rest⟩ := List.forall_mem_cons.1 absent
    cases parts with
    | nil => exact splitAtChar_of_notMem first
    | cons next parts =>
      have joined : joinWith [mark] (part :: next :: parts) = part ++ mark :: joinWith [mark] (next :: parts) :=
        List.append_assoc part [mark] _
      rw [joined, splitAtChar_append_cons, splitAtChar_of_notMem first, ih (List.cons_ne_nil _ _) rest]
      rfl

/-- `replace` of one character goes character by character. -/
theorem replace_cons (old c : Char) (new cs : List Char) :
    replace [old] new (c :: cs) = (if c = old then new else [c]) ++ replace [old] new cs := by
  obtain ⟨piece, pieces, row⟩ := List.exists_cons_of_ne_nil (splitAtChar_ne_nil old cs)
  have rest : replace [old] new cs = joinWith new (piece :: pieces) := congrArg (joinWith new) row
  have whole : replace [old] new (c :: cs) = joinWith new (splitAtChar old (c :: cs)) := rfl
  rw [whole, rest, splitAtChar, row]
  split
  next => rfl
  next => cases pieces <;> rfl

section Several

variable {a b c : Char} {more cs : List Char}

/-- `replace` puts `new` where a mark of several characters stands. -/
theorem replace_append (a b : Char) (more new rest : List Char) :
    replace (a :: b :: more) new (a :: b :: more ++ rest) = new ++ replace (a :: b :: more) new rest := by
  obtain ⟨piece, pieces, row⟩ := List.exists_cons_of_ne_nil (splitAtMark_ne_nil a (b :: more) rest)
  have cut : splitAtMark a (b :: more) (a :: b :: more ++ rest) = [] :: piece :: pieces := by
    rw [List.cons_append, splitAtMark]
    split
    next behind found =>
      obtain rfl : rest = behind := Option.some.inj ((after?_append (a :: b :: more) rest).symm.trans found)
      rw [row]
    next none => cases (after?_append (a :: b :: more) rest).symm.trans none
  have whole (ds : List Char) : replace (a :: b :: more) new ds = joinWith new (splitAtMark a (b :: more) ds) := rfl
  rw [whole, whole, cut, row]
  rfl

/-- `replace` keeps a character at which the mark does not stand. -/
theorem replace_cons_of_none (none : after? (a :: b :: more) (c :: cs) = none) (new : List Char) :
    replace (a :: b :: more) new (c :: cs) = c :: replace (a :: b :: more) new cs := by
  obtain ⟨piece, pieces, row⟩ := List.exists_cons_of_ne_nil (splitAtMark_ne_nil a (b :: more) cs)
  have cut : splitAtMark a (b :: more) (c :: cs) = (c :: piece) :: pieces := by
    rw [splitAtMark]
    split
    next found => cases none.symm.trans found
    next => rw [row]
  have whole (ds : List Char) : replace (a :: b :: more) new ds = joinWith new (splitAtMark a (b :: more) ds) := rfl
  rw [whole, whole, cut, row]
  cases pieces <;> rfl

end Several

end Gazette.Chars
