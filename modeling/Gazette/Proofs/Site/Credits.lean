import Gazette.Proofs.Chars.Pieces
import Gazette.Proofs.Chars.Visible
import Gazette.Proofs.Site.Bylines

/-!
# Credits behind other text

The last paragraph of a page of the Central News Agency ends with a credit in brackets, with a number behind it.
`Byline.credited?` looks for it from the left: the first bracket that opens behind a full stop opens the credit,
and the first one that closes in front of a number closes it. So where another bracket opens behind a full stop
in front of the credit, that one is taken for it: a credit of its own if a number follows it, and otherwise all
the text up to the end of the real one (`firstSome?_credit?_append`). `Byline.Misleads` says when the names that
are read are then not those of the credit (`credited?_signed_iff`).
-/

namespace Gazette.Byline

open Chars

/-! ## Where a credit opens and closes -/

/-- The text of a credit from behind its opening bracket on: at least one character, and then `creditRest?`. -/
def held? : List Char → Option (List Char)
  | [] => none
  | c :: cs => if c = '\n' then none else (creditRest? cs).map (c :: ·)

/-- `credit?` is `held?` behind a full stop and a bracket. -/
theorem credit?_eq (cs : List Char) : credit? cs = (after? ['。', '（'] cs).bind held? := by
  have mark : "。（".toList = ['。', '（'] := rfl
  rw [credit?, mark]
  cases after? ['。', '（'] cs with
  | none => rfl
  | some rest => cases rest <;> rfl

section Rest

variable {cs ds inner number : List Char}

theorem isDigit_of_isDigit {c : Char} (digit : c.isDigit) : Unicode.isDigit c := by
  simp only [Char.isDigit, Bool.and_eq_true, decide_eq_true_iff, ge_iff_le, UInt32.le_iff_toNat_le] at digit
  have low : ¬ c.toNat < 48 := Nat.not_lt.2 digit.1
  have high : c.toNat ≤ 57 := digit.2
  rw [Unicode.isDigit, Unicode.digitRanges, Unicode.Ranges.contains, if_neg low, if_pos high]

/-- `closesCredit` holds of a bracket in front of six digits. -/
theorem closesCredit_of_digits (digits : ∀ c ∈ number, c.isDigit) (six : 6 ≤ number.length) :
    closesCredit ('）' :: number) := by
  have all : number.takeWhile Unicode.isDigit = number :=
    List.takeWhile_eq_self_iff.2 fun c mem ↦ isDigit_of_isDigit (digits c mem)
  simpa [closesCredit, after?, all] using six

/-- A full stop is no part of the number that `closesCredit` asks for. -/
theorem closesCredit_append (cs ds : List Char) : closesCredit (cs ++ '。' :: ds) = closesCredit cs := by
  cases cs with
  | nil => rfl
  | cons c cs =>
    have number : (cs ++ '。' :: ds).takeWhile Unicode.isDigit = cs.takeWhile Unicode.isDigit := by
      have stop : ('。' :: ds).takeWhile Unicode.isDigit = [] := List.takeWhile_cons_of_neg (by decide +kernel)
      rw [List.takeWhile_append, stop, List.append_nil]
      split
      next all => exact ((List.takeWhile_prefix Unicode.isDigit).eq_of_length all).symm
      next => rfl
    by_cases bracket : '）' = c
    · subst bracket
      simp [closesCredit, after?, number]
    · simp [closesCredit, after?, bracket]

/-- `creditRest?` of a run on one line with a full stop and more behind it closes where it did before, or else
where one closes behind the run. -/
theorem creditRest?_append (line : '\n' ∉ cs) (ds : List Char) :
    creditRest? (cs ++ '。' :: ds) = (creditRest? cs).or ((creditRest? ('。' :: ds)).map (cs ++ ·)) := by
  induction cs with
  | nil => simp [creditRest?]
  | cons c cs ih =>
    obtain ⟨same, rest⟩ := List.ne_and_not_mem_of_not_mem_cons line
    have closes := closesCredit_append (c :: cs) ds
    rw [List.cons_append] at closes ⊢
    rw [creditRest?, creditRest?, closes, ih rest, if_neg (Ne.symm same), if_neg (Ne.symm same)]
    split
    · rfl
    · cases creditRest? cs <;> cases creditRest? ('。' :: ds) <;> rfl

/-- `creditRest?` ends at the first closing bracket, if a number of six digits follows. -/
theorem creditRest?_append_bracket (line : '\n' ∉ inner) (unclosed : '）' ∉ inner)
    (closes : closesCredit ('）' :: number)) : creditRest? (inner ++ '）' :: number) = some inner := by
  induction inner with
  | nil => rw [List.nil_append, creditRest?, if_pos closes]
  | cons c inner ih =>
    obtain ⟨same, line⟩ := List.ne_and_not_mem_of_not_mem_cons line
    obtain ⟨other, unclosed⟩ := List.ne_and_not_mem_of_not_mem_cons unclosed
    have goesOn : closesCredit (c :: (inner ++ '）' :: number)) = false := by simp [closesCredit, after?, other]
    rw [List.cons_append, creditRest?, goesOn, if_neg Bool.false_ne_true, if_neg (Ne.symm same), ih line unclosed]
    rfl

theorem isSome_creditRest?_append (line : '\n' ∉ ds) (closes : (creditRest? cs).isSome) :
    (creditRest? (ds ++ cs)).isSome := by
  induction ds with
  | nil => exact closes
  | cons d ds ih =>
    obtain ⟨same, line⟩ := List.ne_and_not_mem_of_not_mem_cons line
    rw [List.cons_append, creditRest?]
    split
    · rfl
    · rw [if_neg (Ne.symm same), Option.isSome_map]
      exact ih line

theorem held?_cons {c : Char} (same : c ≠ '\n') (cs : List Char) : held? (c :: cs) = (creditRest? cs).map (c :: ·) :=
  if_neg same

theorem isSome_held?_append (line : '\n' ∉ ds) (closes : (held? cs).isSome) : (held? (ds ++ cs)).isSome := by
  cases ds with
  | nil => exact closes
  | cons d ds =>
    obtain ⟨same, line⟩ := List.ne_and_not_mem_of_not_mem_cons line
    cases cs with
    | nil => cases closes
    | cons c cs =>
      by_cases feed : c = '\n'
      · rw [held?, if_pos feed] at closes
        cases closes
      · rw [held?_cons feed, Option.isSome_map] at closes
        have behind : '\n' ∉ ds ++ [c] := by simp [line, Ne.symm feed]
        have row : ds ++ c :: cs = ds ++ [c] ++ cs := (List.append_assoc ds [c] cs).symm
        rw [List.cons_append, held?_cons (Ne.symm same), Option.isSome_map, row]
        exact isSome_creditRest?_append behind closes

/-- On one line the first bracket that opens behind a full stop decides whether there is a `credit?`. -/
theorem firstSome?_credit? (line : '\n' ∉ cs) :
    firstSome? credit? cs = (cut? ['。', '（'] cs).bind fun parts ↦ held? parts.2 := by
  induction cs with
  | nil => rfl
  | cons c cs ih =>
    have later := ih (List.not_mem_of_not_mem_cons line)
    rw [firstSome?, cut?, credit?_eq]
    cases opens : after? ['。', '（'] (c :: cs) with
    | none =>
      rw [Option.bind_none, later]
      cases cut? ['。', '（'] cs <;> rfl
    | some rest =>
      rw [Option.bind_some, Option.bind_some]
      dsimp only
      cases here : held? rest with
      | some credit => rfl
      | none =>
        rw [later]
        -- A credit that opens later would close the one that opens here.
        refine Option.bind_eq_none_iff.2 fun parts found ↦ ?_
        obtain ⟨head, behind⟩ := parts
        obtain rfl : cs = '（' :: rest := List.tail_eq_of_cons_eq (append_of_after? opens)
        have row : '（' :: rest = head ++ ['。', '（'] ++ behind := append_of_cut? found
        cases head with
        | nil => cases List.head_eq_of_cons_eq row
        | cons _ head =>
          obtain rfl : rest = head ++ ['。', '（'] ++ behind := List.tail_eq_of_cons_eq row
          have front : '\n' ∉ head ++ ['。', '（'] := fun mem ↦
            line (List.mem_cons_of_mem c (List.mem_cons_of_mem '（' (List.mem_append_left behind mem)))
          refine Option.not_isSome_iff_eq_none.1 fun closes ↦ ?_
          have earlier := isSome_held?_append front closes
          rw [here] at earlier
          cases earlier

/-- A run on one line that is not empty and has no closing bracket is what is `held?` up to the bracket behind
it. -/
theorem held?_append_bracket (full : inner ≠ []) (line : '\n' ∉ inner) (unclosed : '）' ∉ inner)
    (closes : closesCredit ('）' :: number)) : held? (inner ++ '）' :: number) = some inner := by
  cases inner with
  | nil => exact absurd rfl full
  | cons c inner =>
    obtain ⟨same, line⟩ := List.ne_and_not_mem_of_not_mem_cons line
    have rest := creditRest?_append_bracket line (List.not_mem_of_not_mem_cons unclosed) closes
    rw [List.cons_append, held?_cons (Ne.symm same), rest]
    rfl

/-- Text behind an opening bracket that no credit closes is `held?` with the credit behind it. -/
theorem held?_append_credit (front : '\n' ∉ cs) (line : '\n' ∉ inner) (unclosed : '）' ∉ inner)
    (closes : closesCredit ('）' :: number)) : held? (cs ++ '。' :: '（' :: (inner ++ '）' :: number)) =
      (held? cs).or (some (cs ++ '。' :: '（' :: inner)) := by
  have allOnLine : '\n' ∉ '。' :: '（' :: inner := by simp [line]
  have allUnclosed : '）' ∉ '。' :: '（' :: inner := by simp [unclosed]
  cases cs with
  | nil => exact held?_append_bracket (List.cons_ne_nil _ _) allOnLine allUnclosed closes
  | cons c cs =>
    obtain ⟨same, rest⟩ := List.ne_and_not_mem_of_not_mem_cons front
    have credit := creditRest?_append_bracket allOnLine allUnclosed closes
    rw [List.cons_append, List.cons_append] at credit
    rw [List.cons_append, held?_cons (Ne.symm same), held?_cons (Ne.symm same), creditRest?_append rest, credit]
    cases creditRest? cs <;> rfl

/-- A credit behind other text is found where no bracket opens behind a full stop in that text, and otherwise what
is `held?` by that bracket. -/
theorem firstSome?_credit?_append (front : '\n' ∉ cs) (behind : '\n' ∉ number) (full : inner ≠ [])
    (line : '\n' ∉ inner) (unclosed : '）' ∉ inner) (closes : closesCredit ('）' :: number)) :
    firstSome? credit? (cs ++ '。' :: '（' :: (inner ++ '）' :: number)) =
      match cut? ['。', '（'] cs with
      | none => some inner
      | some (_, held) => (held? held).or (some (held ++ '。' :: '（' :: inner)) := by
  have all : '\n' ∉ cs ++ '。' :: '（' :: (inner ++ '）' :: number) := by simp [front, behind, line]
  rw [firstSome?_credit? all, cut?_append_pair (by decide)]
  cases found : cut? ['。', '（'] cs with
  | none => exact held?_append_bracket full line unclosed closes
  | some parts =>
    obtain ⟨head, held⟩ := parts
    have rest : '\n' ∉ held := fun mem ↦ front (append_of_cut? found ▸ List.mem_append_right _ mem)
    exact held?_append_credit rest line unclosed closes

end Rest

/-! ## The names of a credit -/

/-- The names in the pieces of a credit, without the blank ones. -/
def namesOf (pieces : List (List Char)) : List String :=
  (pieces.map fun piece ↦ withoutRole (String.ofList piece)).filter fun name ↦ !name.isEmpty

/-- `credited?` is `namesOf` the pieces of the credit. -/
theorem credited?_eq (s : String) :
    credited? s = (firstSome? credit? s.toList).map fun credit ↦ namesOf (splitAtChar '/' credit) := by
  refine congrArg (Option.map · _) (funext fun credit ↦ ?_)
  have slash : "/".toList = ['/'] := rfl
  simp only [namesOf, Text.splitOn, String.toList_ofList, slash, Chars.splitOn, List.map_map]
  rfl

/-- Nothing but white space stands in a piece of a credit where the name is due. -/
def Nameless (piece : List Char) : Prop := ∀ c ∈ ((cut? ['：'] piece).map Prod.snd).getD piece, isBlank c

/-- `withoutRole` reads an empty name exactly off a `Nameless` piece. -/
theorem withoutRole_eq_empty_iff {piece : List Char} : withoutRole (String.ofList piece) = "" ↔ Nameless piece := by
  rw [withoutRole, Nameless, String.toList_ofList]
  cases cut? ['：'] piece with
  | none => exact Text.trim_ofList_eq_empty_iff
  | some parts => exact Text.trim_ofList_eq_empty_iff

/-- `namesOf` finds nobody exactly if all pieces are `Nameless`. -/
theorem namesOf_eq_nil_iff {pieces : List (List Char)} : namesOf pieces = [] ↔ ∀ piece ∈ pieces, Nameless piece := by
  simp [namesOf, List.filter_eq_nil_iff, withoutRole_eq_empty_iff]

theorem namesOf_append (pieces more : List (List Char)) :
    namesOf (pieces ++ more) = namesOf pieces ++ namesOf more := by
  rw [namesOf, List.map_append, List.filter_append]
  rfl

theorem namesOf_singleton {piece : List Char} (full : withoutRole (String.ofList piece) ≠ "") :
    namesOf [piece] = [withoutRole (String.ofList piece)] := by
  simp [namesOf, full]

/-- A text may stand in a credit as a role or a name. -/
structure Plain (s : String) : Prop where
  /-- It is not empty. -/
  nonempty : s ≠ ""
  /-- It has no white space. -/
  visible : ∀ c ∈ s.toList, isBlank c = false
  /-- It has none of the characters that mark the parts of a credit, and no full stop. -/
  unmarked : ∀ c ∈ s.toList, c ∉ ['/', '：', '（', '）', '。']

instance (s : String) : Decidable (Plain s) :=
  haveI := List.decidableBAll (fun c ↦ isBlank c = false) s.toList
  haveI := List.decidableBAll (fun c ↦ c ∉ ['/', '：', '（', '）', '。']) s.toList
  decidable_of_iff
    (s ≠ "" ∧ (∀ c ∈ s.toList, isBlank c = false) ∧ ∀ c ∈ s.toList, c ∉ ['/', '：', '（', '）', '。'])
    ⟨fun h ↦ ⟨h.1, h.2.1, h.2.2⟩, fun h ↦ ⟨h.nonempty, h.visible, h.unmarked⟩⟩

/-- A character may not stand in a `Plain` text. -/
def Unfit (c : Char) : Prop := isBlank c = true ∨ c ∈ ['/', '：', '（', '）', '。']

instance (c : Char) : Decidable (Unfit c) := inferInstanceAs (Decidable (_ ∨ _))

theorem Plain.notMem {s : String} {c : Char} (h : Plain s) (unfit : Unfit c) : c ∉ s.toList := by
  rintro mem
  rcases unfit with blank | marks
  · rw [h.visible c mem] at blank
    cases blank
  · exact h.unmarked c mem marks

theorem Plain.trim_eq {s : String} (h : Plain s) : Text.trim s = s := by
  have trimmed : Trimmed s.toList :=
    ⟨fun c mem ↦ h.visible c (List.mem_of_mem_head? mem), fun c mem ↦ h.visible c (List.mem_of_mem_getLast? mem)⟩
  rw [← String.toList_inj, Text.toList_trim, trimmed.trim_eq]

/-- A role and the name of the person in it, as they stand in a credit. -/
def entry (person : String × String) : String := person.1 ++ "：" ++ person.2

/-- The role and the name of a person are `Plain`. -/
structure PlainEntry (person : String × String) : Prop where
  /-- The role is plain. -/
  role : Plain person.1
  /-- The name is plain. -/
  name : Plain person.2

instance (person : String × String) : Decidable (PlainEntry person) :=
  decidable_of_iff (Plain person.1 ∧ Plain person.2) ⟨fun h ↦ ⟨h.1, h.2⟩, fun h ↦ ⟨h.role, h.name⟩⟩

section Entries

variable {person : String × String} {c : Char} {lead : List Char}

theorem toList_entry (person : String × String) :
    (entry person).toList = person.1.toList ++ '：' :: person.2.toList := by
  simp [entry]

/-- `withoutRole` takes what stands behind the first colon. -/
theorem withoutRole_append {before : List Char} (first : '：' ∉ before) (behind : List Char) :
    withoutRole (String.ofList (before ++ '：' :: behind)) = Text.trim (String.ofList behind) := by
  rw [withoutRole, String.toList_ofList, cut?_append_cons first]

/-- With no colon in front `withoutRole` takes the name of an `entry`. -/
theorem withoutRole_entry (plain : PlainEntry person) (free : '：' ∉ lead) :
    withoutRole (String.ofList (lead ++ (entry person).toList)) = person.2 := by
  have first : '：' ∉ lead ++ person.1.toList := by
    rw [List.mem_append, not_or]
    exact ⟨free, plain.role.notMem (by decide)⟩
  rw [toList_entry, ← List.append_assoc, withoutRole_append first, String.ofList_toList, plain.name.trim_eq]

/-- With a colon in front `withoutRole` takes that of the `entry` for a part of a name. -/
theorem colon_mem_withoutRole (early : '：' ∈ lead) (person : String × String) :
    '：' ∈ (withoutRole (String.ofList (lead ++ (entry person).toList))).toList := by
  obtain ⟨before, behind, rfl, first⟩ := List.eq_append_cons_of_mem early
  rw [List.append_assoc, List.cons_append, withoutRole_append first, Text.toList_trim, String.toList_ofList,
    mem_trim (by decide), toList_entry]
  simp

/-- Of the characters that are `Unfit`, an `entry` has only the colon. -/
theorem notMem_entry (plain : PlainEntry person) (unfit : Unfit c) (other : c ≠ '：') : c ∉ (entry person).toList := by
  rw [toList_entry, List.mem_append, List.mem_cons, not_or, not_or]
  exact ⟨plain.role.notMem unfit, other, plain.name.notMem unfit⟩

end Entries

/-! ## Credits behind other text -/

/-- The text of a credit: the `entry` of each person, with slashes between them. -/
def creditText (persons : List (String × String)) : String := Text.joinWith "/" (persons.map entry)

section Credits

variable {persons : List (String × String)}

theorem toList_creditText (persons : List (String × String)) :
    (creditText persons).toList = joinWith ['/'] (persons.map fun person ↦ (entry person).toList) := by
  rw [creditText, Text.joinWith, String.toList_ofList, List.map_map]
  rfl

variable (plain : ∀ person ∈ persons, PlainEntry person)
include plain

/-- Of the characters that are `Unfit`, a credit has only slashes and colons. -/
theorem notMem_creditText {c : Char} (unfit : Unfit c) (noColon : c ≠ '：') (noSlash : c ≠ '/') :
    c ∉ (creditText persons).toList := by
  rw [toList_creditText]
  intro mem
  obtain slash | ⟨part, held, here⟩ := mem_joinWith mem
  · exact noSlash slash
  · obtain ⟨person, named, rfl⟩ := List.mem_map.1 held
    exact notMem_entry (plain person named) unfit noColon here

/-- `namesOf` the entries are the names that stand in them. -/
theorem namesOf_entries : namesOf (persons.map fun person ↦ (entry person).toList) = persons.map Prod.snd := by
  have names : (persons.map fun person ↦ withoutRole (String.ofList (entry person).toList)) = persons.map Prod.snd := by
    refine List.map_congr_left fun person mem ↦ ?_
    have read := withoutRole_entry (plain person mem) (List.not_mem_nil : '：' ∉ [])
    rwa [List.nil_append] at read
  rw [namesOf, List.map_map, Function.comp_def, names]
  refine List.filter_eq_self.2 fun name mem ↦ ?_
  obtain ⟨person, named, rfl⟩ := List.mem_map.1 mem
  simpa using (plain person named).name.nonempty

variable (several : persons ≠ [])
include several

/-- The pieces of a `creditText` are its entries. -/
theorem splitAtChar_creditText :
    splitAtChar '/' (creditText persons).toList = persons.map fun person ↦ (entry person).toList := by
  rw [toList_creditText]
  refine splitAtChar_joinWith (by simpa using several) fun part mem ↦ ?_
  obtain ⟨person, named, rfl⟩ := List.mem_map.1 mem
  exact notMem_entry (plain person named) (by decide) (by decide)

theorem creditText_ne_nil : (creditText persons).toList ≠ [] := by
  intro empty
  have pieces := splitAtChar_creditText plain several
  rw [empty] at pieces
  cases persons with
  | nil => exact several rfl
  | cons person persons =>
    have blank : [] = (entry person).toList := List.head_eq_of_cons_eq pieces
    simp [toList_entry] at blank

/-- Behind text in a bracket `namesOf` a credit are those of its persons exactly if none is read in front of the
last slash of that text and no colon stands behind it. -/
theorem namesOf_append_credit {held last : List Char} {pieces : List (List Char)}
    (cut : splitAtChar '/' held = pieces ++ [last]) :
    namesOf (splitAtChar '/' (held ++ '。' :: '（' :: (creditText persons).toList)) = persons.map Prod.snd ↔
      (∀ piece ∈ pieces, Nameless piece) ∧ '：' ∉ last := by
  cases persons with
  | nil => exact absurd rfl several
  | cons person persons =>
    obtain ⟨first, others⟩ := List.forall_mem_cons.1 plain
    have lead : splitAtChar '/' ['。', '（'] = [] ++ [['。', '（']] := rfl
    have credit : splitAtChar '/' ('。' :: '（' :: (creditText (person :: persons)).toList) =
        (['。', '（'] ++ (entry person).toList) :: persons.map fun other ↦ (entry other).toList :=
      splitAtChar_append lead (splitAtChar_creditText plain several)
    have names : namesOf (splitAtChar '/' (held ++ '。' :: '（' :: (creditText (person :: persons)).toList)) =
        namesOf pieces ++ namesOf [last ++ ['。', '（'] ++ (entry person).toList] ++ persons.map Prod.snd := by
      rw [splitAtChar_append cut credit, ← List.append_assoc, ← List.singleton_append, ← List.append_assoc,
        namesOf_append, namesOf_append, namesOf_entries others]
    rw [names, List.map_cons, ← List.singleton_append (l := persons.map Prod.snd), List.append_left_inj]
    by_cases early : '：' ∈ last
    · -- The first name is not read as it stands, for it has no colon.
      have colon := colon_mem_withoutRole (List.mem_append_left ['。', '（'] early) person
      refine iff_of_false (fun same ↦ ?_) fun ⟨_, late⟩ ↦ late early
      have full : withoutRole (String.ofList (last ++ ['。', '（'] ++ (entry person).toList)) ≠ "" := by
        intro empty
        rw [empty] at colon
        exact absurd colon List.not_mem_nil
      rw [namesOf_singleton full, ← List.nil_append [person.2]] at same
      have read := List.singleton_inj.1 (List.append_inj_right' same rfl)
      rw [read] at colon
      exact first.name.notMem (by decide) colon
    · have read : withoutRole (String.ofList (last ++ ['。', '（'] ++ (entry person).toList)) = person.2 :=
        withoutRole_entry first (by simpa using early)
      rw [namesOf_singleton (read ▸ first.name.nonempty), read, List.append_left_eq_self, namesOf_eq_nil_iff]
      exact (and_iff_left early).symm

end Credits

/-! ## What misleads -/

/-- `Misleads text names`: with `text` in front of it, a credit with `names` has other names read. -/
inductive Misleads (text : String) (names : List String) : Prop
  /-- It has a credit of its own that names others. -/
  | credit {others : List String} (found : credited? text = some others) (other : others ≠ names)
  /-- It has no credit, but a bracket opens behind a full stop and so holds all that follows up to the end of the
  credit. Either somebody is named in front of the last slash in there, or a colon stands behind it. -/
  | bracket {lead held last : List Char} {pieces : List (List Char)} (none : credited? text = none)
    (opens : cut? ['。', '（'] text.toList = some (lead, held)) (cut : splitAtChar '/' held = pieces ++ [last])
    (named : (∃ piece ∈ pieces, ¬ Nameless piece) ∨ '：' ∈ last)

section Misleads

variable {text : String} {names : List String}

/-- A text in which no bracket opens behind a full stop never `Misleads`. -/
theorem not_misleads_of_unopened (front : '\n' ∉ text.toList) (unopened : cut? ['。', '（'] text.toList = none) :
    ¬ Misleads text names := by
  have own : credited? text = none := by
    rw [credited?_eq, firstSome?_credit? front, unopened]
    rfl
  intro misleads
  cases misleads with
  | credit found => cases found.symm.trans own
  | bracket _ opened => cases opened.symm.trans unopened

/-- A text with a credit of its own `Misleads` exactly if that names others. -/
theorem misleads_iff_of_credited {others : List String} (own : credited? text = some others) :
    Misleads text names ↔ others ≠ names := by
  refine ⟨fun misleads ↦ ?_, .credit own⟩
  cases misleads with
  | credit found other =>
    cases found.symm.trans own
    exact other
  | bracket none => cases none.symm.trans own

/-- A text with a bracket that stays open `Misleads` by what the bracket holds. -/
theorem misleads_iff_of_bracket {lead held last : List Char} {pieces : List (List Char)}
    (own : credited? text = none) (opens : cut? ['。', '（'] text.toList = some (lead, held))
    (cut : splitAtChar '/' held = pieces ++ [last]) :
    Misleads text names ↔ (∃ piece ∈ pieces, ¬ Nameless piece) ∨ '：' ∈ last := by
  refine ⟨fun misleads ↦ ?_, .bracket own opens cut⟩
  cases misleads with
  | credit found => cases found.symm.trans own
  | bracket _ opened split named =>
    cases opened.symm.trans opens
    obtain ⟨rfl, ends⟩ := List.append_inj' (split.symm.trans cut) rfl
    cases ends
    exact named

end Misleads

section Signed

variable {text number : String} {persons : List (String × String)} (front : '\n' ∉ text.toList)
  (plain : ∀ person ∈ persons, PlainEntry person) (several : persons ≠ []) (digits : ∀ c ∈ number.toList, c.isDigit)
  (six : 6 ≤ number.toList.length)
include front plain several digits six

/-- The credit behind a text is found where no bracket opens behind a full stop in the text, and otherwise what is
`held?` by that bracket. -/
theorem firstSome?_credit?_signed :
    firstSome? credit? (text ++ "。（" ++ creditText persons ++ "）" ++ number).toList =
      match cut? ['。', '（'] text.toList with
      | none => some (creditText persons).toList
      | some (_, held) => (held? held).or (some (held ++ '。' :: '（' :: (creditText persons).toList)) := by
  have behind : '\n' ∉ number.toList := fun mem ↦ absurd (digits _ mem) (by decide)
  have row : (text ++ "。（" ++ creditText persons ++ "）" ++ number).toList =
      text.toList ++ '。' :: '（' :: ((creditText persons).toList ++ '）' :: number.toList) := by
    simp
  rw [row]
  exact firstSome?_credit?_append front behind (creditText_ne_nil plain several)
    (notMem_creditText plain (by decide) (by decide) (by decide))
    (notMem_creditText plain (by decide) (by decide) (by decide)) (closesCredit_of_digits digits six)

/-- `credited?` of a text on one line with a credit behind it gives the names of the credit exactly if the text
does not mislead. -/
theorem credited?_signed_iff :
    credited? (text ++ "。（" ++ creditText persons ++ "）" ++ number) = some (persons.map Prod.snd) ↔
      ¬ Misleads text (persons.map Prod.snd) := by
  rw [credited?_eq, firstSome?_credit?_signed front plain several digits six]
  have own := credited?_eq text
  rw [firstSome?_credit? front] at own
  cases opens : cut? ['。', '（'] text.toList with
  | none =>
    refine iff_of_true ?_ (not_misleads_of_unopened front opens)
    dsimp only
    rw [Option.map_some, splitAtChar_creditText plain several, namesOf_entries plain]
  | some parts =>
    obtain ⟨lead, held⟩ := parts
    rw [opens, Option.bind_some] at own
    dsimp only at own ⊢
    cases closed : held? held with
    | some credit =>
      -- The text has a credit of its own.
      rw [closed, Option.map_some] at own
      rw [Option.some_or, Option.map_some, misleads_iff_of_credited own, not_not, Option.some_inj]
    | none =>
      -- A bracket holds all that follows.
      obtain ⟨pieces, last, cut⟩ : ∃ pieces last, splitAtChar '/' held = pieces ++ [last] :=
        ⟨_, _, (List.dropLast_append_getLast (splitAtChar_ne_nil '/' held)).symm⟩
      rw [closed, Option.map_none] at own
      rw [Option.none_or, Option.map_some, Option.some_inj, namesOf_append_credit plain several cut,
        misleads_iff_of_bracket own opens cut]
      simp only [not_or, not_exists, not_and, not_not]

end Signed

/-- A remark in brackets behind an earlier sentence `Misleads`. -/
theorem credited?_afterRemark :
    '\n' ∉ "結束。（攝影：丙）同意".toList ∧ (∀ person ∈ [("編輯", "甲")], PlainEntry person) ∧
      ¬ credited? ("結束。（攝影：丙）同意" ++ "。（" ++ creditText [("編輯", "甲")] ++ "）" ++ "1120823") = some ["甲"] := by
  have front : '\n' ∉ "結束。（攝影：丙）同意".toList := by decide
  have plain : ∀ person ∈ [("編輯", "甲")], PlainEntry person := by decide
  have digits : ∀ c ∈ "1120823".toList, c.isDigit := List.all_eq_true.1 (by decide)
  have none : credited? "結束。（攝影：丙）同意" = none := by decide +kernel
  have opens : cut? ['。', '（'] "結束。（攝影：丙）同意".toList = some ("結束".toList, "攝影：丙）同意".toList) := by
    decide +kernel
  have cut : splitAtChar '/' "攝影：丙）同意".toList = [] ++ ["攝影：丙）同意".toList] := by decide +kernel
  refine ⟨front, plain, fun read ↦ ?_⟩
  exact (credited?_signed_iff front plain (by decide) digits (by decide)).1 read
    (.bracket none opens cut (.inr (by decide)))

/-- So `credited?` does not give the names of a credit whatever stands in front of it. -/
theorem not_forall_credited? :
    ¬ ∀ (text number : String) (persons : List (String × String)), (∀ c ∈ text.toList, ¬ endsLine c) → persons ≠ [] →
      (∀ person ∈ persons, PlainEntry person) → (∀ c ∈ number.toList, c.isDigit) →
      (number.toList.length = 6 ∨ number.toList.length = 7) →
      credited? (text ++ "。（" ++ creditText persons ++ "）" ++ number) = some (persons.map Prod.snd) := by
  intro always
  have line : ∀ c ∈ "結束。（攝影：丙）同意".toList, ¬ endsLine c := by
    have all : ("結束。（攝影：丙）同意".toList.all fun c ↦ !endsLine c) = true := by decide
    simpa only [List.all_eq_true, Bool.not_eq_true', Bool.not_eq_true] using all
  have digits : ∀ c ∈ "1120823".toList, c.isDigit := List.all_eq_true.1 (by decide)
  have read := always "結束。（攝影：丙）同意" "1120823" [("編輯", "甲")] line (by decide) (by decide) digits (by decide)
  exact absurd read (by decide +kernel)

end Gazette.Byline
