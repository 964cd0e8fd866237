import Gazette.Json.Reader
import Gazette.Proofs.Chars.Edges
import Gazette.Proofs.Json.Records
import Gazette.Proofs.Steps

/-!
# Tokens

A number, a word or a string in a text is a token: `Json.scalar` takes a run of characters for it, and makes the
same of this run whatever stands behind it, as long as that could not go on a number. What the tokens of a text
are therefore depends on the text around them only at their ends.

`Takes read allowed fit` says that of a reader. It is shown part by part for numbers (`takes_numeral`) and
escapes (`takes_escape`); `Quoted` describes strings, and `exists_isScalar` puts the three together to
`IsScalar`.
-/

namespace Gazette.Json

/-- `Takes read allowed fit`: the reader takes runs of allowed characters, and what it makes of such a run does
not depend on what stands behind it, if that is `fit` to stand there. -/
def Takes {α : Type} (read : Reads α) (allowed : Char → Prop) (fit : List Char → Prop) : Prop :=
  ∀ cs x rest, read cs = .ok (x, rest) →
    ∃ token, cs = token ++ rest ∧ (∀ c ∈ token, allowed c) ∧
      ∀ more, fit more → read (token ++ more) = .ok (x, more)

/-! ## Numbers -/

/-- Whether a character may stand in a number. -/
def isNumberChar (c : Char) : Bool := c.isDigit || c == '+' || c == '-' || c == '.' || c == 'e' || c == 'E'

theorem isNumberChar_of_isDigit {c : Char} (h : c.isDigit) : isNumberChar c := by
  simp [isNumberChar, h]

/-- `Ends rest`: no number goes on in `rest`. -/
def Ends (rest : List Char) : Prop := ∀ c ∈ rest.head?, ¬ isNumberChar c

/-- `NoDigit rest`: no digit stands in front of `rest`. -/
def NoDigit (rest : List Char) : Prop := ∀ c ∈ rest.head?, ¬ c.isDigit

theorem Ends.noDigit {rest : List Char} (h : Ends rest) : NoDigit rest :=
  fun c mem digit ↦ h c mem (isNumberChar_of_isDigit digit)

theorem NoDigit.append_congr {token rest more : List Char} (h : NoDigit (token ++ rest)) (h' : NoDigit more) :
    NoDigit (token ++ more) := by
  cases token with
  | nil => exact h'
  | cons c token => exact h

/-- A text has some digits in front and then no more. -/
theorem exists_digits (cs : List Char) :
    ∃ digits tail, cs = digits ++ tail ∧ (∀ c ∈ digits, c.isDigit) ∧ NoDigit tail :=
  ⟨cs.takeWhile Char.isDigit, cs.dropWhile Char.isDigit, List.takeWhile_append_dropWhile.symm,
    fun _ ↦ List.mem_takeWhile_imp, fun _ mem ↦ Bool.eq_false_iff.1 (Chars.not_of_mem_head?_dropWhile mem)⟩

section Numbers

variable {digits tail cs rest : List Char} {negative below : Bool} {n e skipped : Nat} {start : Int} {x : Numeral}

/-- `digitsOf` takes the digits in front, up to something else. -/
theorem digitsOf_append (all : ∀ c ∈ digits, c.isDigit) (none : NoDigit tail) : digitsOf (digits ++ tail) = digits := by
  have behind : tail.takeWhile Char.isDigit = [] := by
    cases tail with
    | nil => rfl
    | cons c tail => exact List.takeWhile_cons_of_neg (none c rfl)
  rw [digitsOf, List.takeWhile_append_of_pos all, behind, List.append_nil]

/-- `scaled` takes no more characters. -/
theorem scaled_eq_ok (read : scaled negative n start cs = .ok (x, rest)) :
    rest = cs ∧ ∀ more, scaled negative n start more = .ok (x, more) := by
  unfold scaled at read
  split at read
  next size found =>
    cases read
    refine ⟨rfl, fun more ↦ ?_⟩
    unfold scaled
    rw [found]
  next => cases read

/-- Behind its last digit `exponentDigits` is `scaled`. -/
theorem exponentDigits_of_noDigit (none : NoDigit rest) : exponentDigits negative below n start e rest =
    scaled negative n (if below then start - e else start + e) rest := by
  cases rest with
  | nil => rfl
  | cons c rest => exact if_neg (none c rfl)

theorem takes_exponentDigits : Takes (exponentDigits negative below n start e) (isNumberChar ·) Ends := by
  intro cs x rest read
  induction cs generalizing e with
  | nil =>
    obtain ⟨rfl, again⟩ := scaled_eq_ok read
    refine ⟨[], rfl, List.forall_mem_nil _, fun more fit ↦ ?_⟩
    rw [List.nil_append, exponentDigits_of_noDigit fit.noDigit, again]
  | cons c cs ih =>
    by_cases digit : c.isDigit
    · have number := isNumberChar_of_isDigit digit
      simp only [exponentDigits, digit, if_true] at read
      split at read
      next small =>
        obtain ⟨token, rfl, allowed, again⟩ := ih read
        refine ⟨c :: token, rfl, List.forall_mem_cons.2 ⟨number, allowed⟩, fun more fit ↦ ?_⟩
        rw [List.cons_append, exponentDigits, if_pos digit]
        exact (if_pos small).trans (again more fit)
      next large =>
        split at read
        next => cases read
        next zero =>
          -- The value is settled, and what is left of the exponent is skipped.
          cases read
          obtain ⟨digits, tail, rfl, all, none⟩ := exists_digits cs
          have behind {more : List Char} (none : NoDigit more) : (digits ++ more).dropWhile Char.isDigit = more := by
            rw [List.dropWhile_append_of_pos all]
            cases more with
            | nil => rfl
            | cons c more => exact List.dropWhile_cons_of_neg (none c rfl)
          refine ⟨c :: digits, by rw [behind none]; rfl,
            List.forall_mem_cons.2 ⟨number, fun c mem ↦ isNumberChar_of_isDigit (all c mem)⟩, fun more fit ↦ ?_⟩
          simp only [List.cons_append, exponentDigits, digit, if_true, large, if_false, zero, behind fit.noDigit]
    · have none : NoDigit (c :: cs) := by
        rintro d ⟨⟩
        exact digit
      rw [exponentDigits_of_noDigit none] at read
      obtain ⟨rfl, again⟩ := scaled_eq_ok read
      refine ⟨[], rfl, List.forall_mem_nil _, fun more fit ↦ ?_⟩
      rw [List.nil_append, exponentDigits_of_noDigit fit.noDigit, again]

/-- What `exponentPart` reads has a digit behind its sign, and is read in the same way whatever follows. -/
theorem exponentPart_eq_ok (read : exponentPart negative n start cs = .ok (x, rest)) :
    ∃ sign below c digits, cs = sign ++ c :: digits ∧ (∀ d ∈ sign, isNumberChar d) ∧ c.isDigit ∧
      ∀ more, exponentPart negative n start (sign ++ c :: more) =
        exponentDigits negative below n start (Number.valueIn 10 [c]) more := by
  have digit_of {below : Bool} {c : Char} {digits : List Char} (read : (if c.isDigit then
        exponentDigits negative below n start (Number.valueIn 10 [c]) digits
      else .error (.atFirst .badNumber (c :: digits))) = .ok (x, rest)) : c.isDigit := by
    split at read
    next digit => exact digit
    next => cases read
  rcases cs with _ | ⟨c, cs⟩
  · cases read
  by_cases plus : c = '+'
  · subst plus
    rcases cs with _ | ⟨c, digits⟩
    · cases read
    · have digit := digit_of read
      exact ⟨['+'], false, c, digits, rfl, by simp [isNumberChar], digit, fun more ↦ if_pos digit⟩
  by_cases minus : c = '-'
  · subst minus
    rcases cs with _ | ⟨c, digits⟩
    · cases read
    · have digit := digit_of read
      exact ⟨['-'], true, c, digits, rfl, by simp [isNumberChar], digit, fun more ↦ if_pos digit⟩
  · have unsigned (cs : List Char) : exponentPart negative n start (c :: cs) =
        if c.isDigit then exponentDigits negative false n start (Number.valueIn 10 [c]) cs
        else .error (.atFirst .badNumber (c :: cs)) := by
      unfold exponentPart
      split
      next below digits signed =>
        split at signed
        next same => exact absurd (List.cons.inj same).1 plus
        next same => exact absurd (List.cons.inj same).1 minus
        next => cases signed; rfl
    rw [unsigned] at read
    have digit := digit_of read
    exact ⟨[], false, c, cs, rfl, List.forall_mem_nil _, digit, fun more ↦ (unsigned more).trans (if_pos digit)⟩

theorem takes_exponentPart : Takes (exponentPart negative n start) (isNumberChar ·) Ends := by
  intro cs x rest read
  obtain ⟨sign, below, c, digits, rfl, signs, digit, reads⟩ := exponentPart_eq_ok read
  rw [reads] at read
  obtain ⟨token, rfl, allowed, again⟩ := takes_exponentDigits _ _ _ read
  refine ⟨sign ++ c :: token, by simp, ?_, fun more fit ↦ ?_⟩
  · exact List.forall_mem_append.2 ⟨signs, List.forall_mem_cons.2 ⟨isNumberChar_of_isDigit digit, allowed⟩⟩
  · rw [List.append_assoc, List.cons_append, reads]
    exact again more fit

/-- Where no exponent stands `optionalExponent` is `scaled`. -/
theorem optionalExponent_of_ends (ends : ∀ c ∈ cs.head?, c ≠ 'e' ∧ c ≠ 'E') :
    optionalExponent negative n start cs = scaled negative n start cs := by
  unfold optionalExponent
  split
  next => exact absurd rfl (ends _ rfl).1
  next => exact absurd rfl (ends _ rfl).2
  next => rfl

theorem Ends.noExponent {rest : List Char} (h : Ends rest) : ∀ c ∈ rest.head?, c ≠ 'e' ∧ c ≠ 'E' := by
  intro c mem
  constructor
  · rintro rfl
    exact h _ mem rfl
  · rintro rfl
    exact h _ mem rfl

/-- A reader that goes on with another one behind a mark takes the mark with what that takes. -/
theorem Takes.mark {read read' : Reads Numeral} (h : Takes read (isNumberChar ·) Ends) {mark : Char}
    (allowed : isNumberChar mark) (step : ∀ cs, read' (mark :: cs) = read cs)
    (found : read' (mark :: cs) = .ok (x, rest)) :
    ∃ token, mark :: cs = token ++ rest ∧ (∀ c ∈ token, isNumberChar c) ∧
      ∀ more, Ends more → read' (token ++ more) = .ok (x, more) := by
  rw [step] at found
  obtain ⟨token, rfl, allowed', again⟩ := h _ _ _ found
  refine ⟨mark :: token, rfl, List.forall_mem_cons.2 ⟨allowed, allowed'⟩, fun more fit ↦ ?_⟩
  rw [List.cons_append, step]
  exact again more fit

theorem takes_optionalExponent : Takes (optionalExponent negative n start) (isNumberChar ·) Ends := by
  intro cs x rest read
  by_cases ends : ∀ c ∈ cs.head?, c ≠ 'e' ∧ c ≠ 'E'
  · rw [optionalExponent_of_ends ends] at read
    obtain ⟨rfl, again⟩ := scaled_eq_ok read
    refine ⟨[], rfl, List.forall_mem_nil _, fun more fit ↦ ?_⟩
    rw [List.nil_append, optionalExponent_of_ends fit.noExponent, again]
  · rcases cs with _ | ⟨c, cs⟩
    · exact absurd (by simp) ends
    · have mark : c = 'e' ∨ c = 'E' := by
        by_contra none
        exact ends fun d mem ↦ by
          cases mem
          exact not_or.1 none
      rcases mark with rfl | rfl
      · exact takes_exponentPart.mark rfl (fun _ ↦ rfl) read
      · exact takes_exponentPart.mark rfl (fun _ ↦ rfl) read

/-- `fractionPart` reads the digits of a fraction and goes on with `optionalExponent`. -/
theorem fractionPart_append (all : ∀ c ∈ digits, c.isDigit) (some : digits ≠ []) (none : NoDigit tail) :
    fractionPart negative n start (digits ++ tail) =
      optionalExponent negative (significand n digits).1
        (start - ↑(digits.length - (significand n digits).2.length)) tail := by
  unfold fractionPart
  simp only [digitsOf_append all none, List.drop_left, List.isEmpty_eq_false_iff.2 some, Bool.false_eq_true,
    if_false]

/-- `fractionPart` takes a fraction with the exponent behind it. -/
theorem takes_fractionPart : Takes (fractionPart negative n start) (isNumberChar ·) Ends := by
  intro cs x rest read
  obtain ⟨digits, tail, rfl, all, none⟩ := exists_digits cs
  have some : digits ≠ [] := by
    rintro rfl
    unfold fractionPart at read
    simp only [digitsOf_append all none] at read
    cases read
  rw [fractionPart_append all some none] at read
  obtain ⟨token, rfl, allowed, again⟩ := takes_optionalExponent _ _ _ read
  refine ⟨digits ++ token, (List.append_assoc _ _ _).symm,
    List.forall_mem_append.2 ⟨fun c mem ↦ isNumberChar_of_isDigit (all c mem), allowed⟩, fun more fit ↦ ?_⟩
  rw [List.append_assoc, fractionPart_append all some (none.append_congr fit.noDigit)]
  exact again more fit

/-- Where neither fraction nor exponent stands `numberTail` has a whole number, or `scaled` if that is too
large. -/
theorem numberTail_of_ends (ends : ∀ c ∈ cs.head?, c ≠ '.' ∧ c ≠ 'e' ∧ c ≠ 'E') :
    numberTail negative n skipped cs =
      if skipped ≠ 0 ∨ negative ∧ (n = 0 ∨ Nat.pow 2 63 < n) then scaled negative n skipped cs
      else .ok (.whole (if negative then -n else n), cs) := by
  unfold numberTail
  split
  next => exact absurd rfl (ends _ rfl).1
  next => exact absurd rfl (ends _ rfl).2.1
  next => exact absurd rfl (ends _ rfl).2.2
  next => rfl

/-- `numberTail` takes what follows the whole part of a number. -/
theorem takes_numberTail : Takes (numberTail negative n skipped) (isNumberChar ·) Ends := by
  intro cs x rest read
  by_cases ends : ∀ c ∈ cs.head?, c ≠ '.' ∧ c ≠ 'e' ∧ c ≠ 'E'
  · have stops {more : List Char} (fit : Ends more) : ∀ c ∈ more.head?, c ≠ '.' ∧ c ≠ 'e' ∧ c ≠ 'E' := by
      refine fun c mem ↦ ⟨?_, fit.noExponent c mem⟩
      rintro rfl
      exact fit _ mem rfl
    rw [numberTail_of_ends ends] at read
    split at read
    next rounds =>
      obtain ⟨rfl, again⟩ := scaled_eq_ok read
      refine ⟨[], rfl, List.forall_mem_nil _, fun more fit ↦ ?_⟩
      rw [List.nil_append, numberTail_of_ends (stops fit), if_pos rounds, again]
    next whole =>
      cases read
      refine ⟨[], rfl, List.forall_mem_nil _, fun more fit ↦ ?_⟩
      rw [List.nil_append, numberTail_of_ends (stops fit), if_neg whole]
  · rcases cs with _ | ⟨c, cs⟩
    · exact absurd (by simp) ends
    · have mark : c = '.' ∨ c = 'e' ∨ c = 'E' := by
        by_contra none
        exact ends fun d mem ↦ by
          cases mem
          exact ⟨fun h ↦ none (.inl h), fun h ↦ none (.inr (.inl h)), fun h ↦ none (.inr (.inr h))⟩
      rcases mark with rfl | rfl | rfl
      · exact takes_fractionPart.mark rfl (fun _ ↦ rfl) read
      · exact takes_exponentPart.mark rfl (fun _ ↦ rfl) read
      · exact takes_exponentPart.mark rfl (fun _ ↦ rfl) read

/-- Behind a zero in front `numeral` goes on with `numberTail`. -/
theorem numeral_zero (none : NoDigit tail) : numeral negative ('0' :: tail) = numberTail negative 0 0 tail := by
  rcases tail with _ | ⟨d, tail⟩
  · rfl
  · exact if_neg (none d rfl)

/-- `numeral` reads the digits of the whole part and goes on with `numberTail`. -/
theorem numeral_append {c : Char} (digit : c.isDigit) (some : c ≠ '0') (all : ∀ c ∈ digits, c.isDigit)
    (none : NoDigit tail) : numeral negative (c :: digits ++ tail) =
      numberTail negative (significand 0 (c :: digits)).1 (significand 0 (c :: digits)).2.length tail := by
  have front : digitsOf (c :: digits ++ tail) = c :: digits :=
    digitsOf_append (List.forall_mem_cons.2 ⟨digit, all⟩) none
  have behind : (c :: digits ++ tail).drop (c :: digits).length = tail := List.drop_left
  simp only [List.cons_append] at front behind ⊢
  simp only [numeral, some, if_false, digit, if_true, front, behind]

/-- `numeral` takes a number as a whole. -/
theorem takes_numeral : Takes (numeral negative) (isNumberChar ·) Ends := by
  intro cs x rest read
  rcases cs with _ | ⟨c, cs⟩
  · cases read
  by_cases zero : c = '0'
  · subst zero
    have none : NoDigit cs := by
      rcases cs with _ | ⟨d, cs⟩
      · rintro c ⟨⟩
      · rintro c ⟨⟩ digit
        simp only [numeral, if_true, digit] at read
        cases read
    rw [numeral_zero none] at read
    obtain ⟨token, rfl, allowed, again⟩ := takes_numberTail _ _ _ read
    refine ⟨'0' :: token, rfl, List.forall_mem_cons.2 ⟨rfl, allowed⟩, fun more fit ↦ ?_⟩
    rw [List.cons_append, numeral_zero (none.append_congr fit.noDigit)]
    exact again more fit
  by_cases digit : c.isDigit
  · obtain ⟨digits, tail, rfl, all, none⟩ := exists_digits cs
    rw [← List.cons_append, numeral_append digit zero all none] at read
    obtain ⟨token, rfl, allowed, again⟩ := takes_numberTail _ _ _ read
    refine ⟨c :: digits ++ token, by simp, ?_, fun more fit ↦ ?_⟩
    · have whole : ∀ d ∈ c :: digits, isNumberChar d :=
        List.forall_mem_cons.2 ⟨isNumberChar_of_isDigit digit, fun d mem ↦ isNumberChar_of_isDigit (all d mem)⟩
      exact List.forall_mem_append.2 ⟨whole, allowed⟩
    · rw [List.append_assoc, numeral_append digit zero all (none.append_congr fit.noDigit)]
      exact again more fit
  · simp only [numeral, zero, digit, if_false] at read
    cases read

end Numbers

/-! ## Words -/

/-- `word letters` takes just these letters. -/
theorem word_eq_ok_iff {letters cs rest : List Char} : word letters cs = .ok ((), rest) ↔ cs = letters ++ rest := by
  induction letters generalizing cs with
  | nil =>
    rw [word, List.nil_append, Except.ok.injEq, Prod.mk.injEq, and_iff_right rfl]
  | cons a letters ih =>
    rcases cs with _ | ⟨c, cs⟩
    · constructor <;> intro h <;> cases h
    · by_cases same : a = c
      · rw [word, if_pos same, ih, same, List.cons_append, List.cons_inj_right]
      · rw [word, if_neg same, List.cons_append, List.cons.injEq]
        constructor
        · intro read
          cases read
        · intro row
          exact absurd row.1.symm same

/-! ## Strings -/

/-- A character that may stand in an escape behind its backslash. -/
def IsEscapeChar (c : Char) : Prop := Number.isHexDigit c ∨ c ∈ 'u' :: '\\' :: escapeLetters

theorem takes_hexUnit : Takes hexUnit IsEscapeChar fun _ ↦ True := by
  intro cs n rest read
  have digit {c : Char} {v : Nat} (h : Number.digitValue? c = some v) : IsEscapeChar c :=
    .inl (by rw [Number.isHexDigit, h]; rfl)
  unfold hexUnit at read
  split at read
  next bytes a b c d digits =>
    cases read
    rcases cs with _ | ⟨c₁, _ | ⟨c₂, _ | ⟨c₃, _ | ⟨c₄, cs⟩⟩⟩⟩
    case cons.cons.cons.cons =>
      have values : Number.digitValue? c₁ = some a ∧ Number.digitValue? c₂ = some b ∧
          Number.digitValue? c₃ = some c ∧ Number.digitValue? c₄ = some d := by
        simpa [List.mapM_cons, Option.bind_eq_some_iff, and_assoc] using digits
      obtain ⟨h₁, h₂, h₃, h₄⟩ := values
      refine ⟨[c₁, c₂, c₃, c₄], rfl, ?_, fun more _ ↦ ?_⟩
      · simp [digit h₁, digit h₂, digit h₃, digit h₄]
      · simp [hexUnit, List.mapM_cons, h₁, h₂, h₃, h₄]
    all_goals simp [List.mapM_cons, Option.bind_eq_some_iff] at digits
  next => cases read

theorem takes_lowHalf {high : Nat} : Takes (lowHalf high) IsEscapeChar fun _ ↦ True := by
  intro cs c rest read
  unfold lowHalf at read
  split at read
  next cs =>
    obtain ⟨⟨low, behind⟩, unit, half⟩ := exists_of_bind read
    obtain ⟨token, rfl, allowed, again⟩ := takes_hexUnit _ _ _ unit
    dsimp only at half
    split at half
    next range =>
      obtain ⟨rfl, rfl⟩ := Prod.mk.inj (Except.ok.inj half)
      refine ⟨'\\' :: 'u' :: token, rfl, ?_, fun more fit ↦ ?_⟩
      · exact List.forall_mem_cons.2 ⟨.inr (by simp), List.forall_mem_cons.2 ⟨.inr (by simp), allowed⟩⟩
      · simp only [List.cons_append, lowHalf, again more fit, bind, Except.bind, range, and_self, if_true]
        rfl
    next => cases half
  all_goals cases read

/-- `escape` takes an escape, whatever stands behind it. -/
theorem takes_escape : Takes escape IsEscapeChar fun _ ↦ True := by
  intro cs c rest read
  unfold escape at read
  split at read
  case h_10 cs =>
    obtain ⟨⟨unit, behind⟩, found, whole⟩ := exists_of_bind read
    obtain ⟨token, rfl, allowed, again⟩ := takes_hexUnit _ _ _ found
    have letter : IsEscapeChar 'u' := .inr (by simp)
    dsimp only at whole
    split at whole
    next => cases whole
    next notLow =>
      split at whole
      next isHigh =>
        obtain ⟨token', rfl, allowed', again'⟩ := takes_lowHalf _ _ _ whole
        refine ⟨'u' :: token ++ token', by simp, ?_, fun more fit ↦ ?_⟩
        · exact List.forall_mem_append.2 ⟨List.forall_mem_cons.2 ⟨letter, allowed⟩, allowed'⟩
        · simp only [List.cons_append, List.append_assoc, escape, again _ fit, bind, Except.bind, notLow, if_false,
            isHigh, and_self, if_true, again' more fit]
      next notHigh =>
        cases whole
        refine ⟨'u' :: token, rfl, List.forall_mem_cons.2 ⟨letter, allowed⟩, fun more fit ↦ ?_⟩
        simp only [List.cons_append, escape, again more fit, bind, Except.bind, notLow, notHigh, if_false]
        rfl
  case h_1 => cases read
  case h_11 => cases read
  all_goals
    cases read
    exact ⟨[_], rfl, by simp [IsEscapeChar, escapeLetters], fun _ _ ↦ rfl⟩

/-- A character that may stand in a token. -/
def IsVisible (c : Char) : Prop := 0x20 ≤ c.toNat

instance (c : Char) : Decidable (IsVisible c) := inferInstanceAs (Decidable (_ ≤ _))

/-- `Quoted body token`: the run `token` stands for the characters `body` behind an opening quote, up to the
closing one. -/
inductive Quoted : List Char → List Char → Prop
  /-- The closing quote stands for no characters. -/
  | close : Quoted [] ['"']
  /-- A character that stands for itself. -/
  | char {c : Char} {body token : List Char} (visible : IsVisible c) (notQuote : c ≠ '"') (notBackslash : c ≠ '\\')
      (more : Quoted body token) : Quoted (c :: body) (c :: token)
  /-- An escape. -/
  | escape {c : Char} {letters body token : List Char} (allowed : ∀ d ∈ letters, IsEscapeChar d)
      (reads : ∀ more, escape (letters ++ more) = .ok (c, more)) (more : Quoted body token) :
      Quoted (c :: body) ('\\' :: letters ++ token)

theorem IsEscapeChar.visible_and_ne {c : Char} (h : IsEscapeChar c) : IsVisible c ∧ c ≠ ',' := by
  rcases h with hex | letter
  · refine ⟨?_, ?_⟩
    · unfold Number.isHexDigit Number.digitValue? at hex
      have ranges : ('0' ≤ c ∧ c ≤ '9') ∨ ('a' ≤ c ∧ c ≤ 'f') ∨ ('A' ≤ c ∧ c ≤ 'F') := by
        by_contra none
        simp only [not_or] at none
        simp [none] at hex
      have zero : '0'.toNat = 48 := rfl
      have a : 'a'.toNat = 97 := rfl
      have A : 'A'.toNat = 65 := rfl
      unfold IsVisible
      rcases ranges with ⟨low, -⟩ | ⟨low, -⟩ | ⟨low, -⟩ <;> have low := Char.le_def.1 low <;>
        have low : _ ≤ c.toNat := UInt32.le_iff_toNat_le.1 low <;> simp at low <;> omega
    · rintro rfl
      exact absurd hex (by decide)
  · simp only [escapeLetters, List.mem_cons, List.not_mem_nil, or_false] at letter
    rcases letter with rfl | rfl | rfl | rfl | rfl | rfl | rfl | rfl | rfl | rfl <;> exact ⟨by decide, by decide⟩

section Quoted

variable {body token : List Char}

/-- What `stringBody` reads is `Quoted`. -/
theorem exists_quoted {fuel : Nat} {cs rest : List Char} (read : stringBody fuel cs = .ok (body, rest)) :
    ∃ token, cs = token ++ rest ∧ Quoted body token := by
  induction fuel generalizing cs body with
  | zero => cases read
  | succ fuel ih =>
    rcases cs with _ | ⟨c, cs⟩
    · cases read
    by_cases quote : c = '"'
    · subst quote
      cases read
      exact ⟨['"'], rfl, .close⟩
    by_cases backslash : c = '\\'
    · subst backslash
      obtain ⟨⟨d, behind⟩, found, others⟩ := exists_of_bind read
      obtain ⟨⟨more, left⟩, reads, done⟩ := exists_of_bind others
      cases done
      obtain ⟨letters, rfl, allowed, again⟩ := takes_escape _ _ _ found
      obtain ⟨token, rfl, quoted⟩ := ih reads
      exact ⟨'\\' :: letters ++ token, by simp, .escape allowed (fun more ↦ again more trivial) quoted⟩
    · rw [stringBody] at read
      · split at read
        next => cases read
        next visible =>
          obtain ⟨⟨more, left⟩, reads, done⟩ := exists_of_bind read
          cases done
          obtain ⟨token, rfl, quoted⟩ := ih reads
          exact ⟨c :: token, rfl, .char (Nat.le_of_not_lt visible) quote backslash quoted⟩
      · exact quote
      · exact backslash

/-- `stringBody` reads what is `Quoted`, whatever stands behind the closing quote. -/
theorem Quoted.stringBody (h : Quoted body token) {fuel : Nat} (enough : body.length < fuel) (rest : List Char) :
    stringBody fuel (token ++ rest) = .ok (body, rest) := by
  induction h generalizing fuel with
  | close =>
    cases fuel with
    | zero => cases enough
    | succ fuel => rfl
  | char visible notQuote notBackslash _ ih =>
    cases fuel with
    | zero => cases enough
    | succ fuel =>
      rw [List.cons_append, Json.stringBody, if_neg (Nat.not_lt.2 visible), ih (Nat.lt_of_succ_lt_succ enough)]
      · rfl
      · exact notQuote
      · exact notBackslash
  | escape allowed reads _ ih =>
    cases fuel with
    | zero => cases enough
    | succ fuel =>
      rw [List.append_assoc, List.cons_append, Json.stringBody, reads]
      simp only [bind, Except.bind, ih (Nat.lt_of_succ_lt_succ enough)]
      rfl

theorem Quoted.length_lt (h : Quoted body token) : body.length < token.length := by
  induction h with
  | close => exact Nat.one_pos
  | char _ _ _ _ ih => exact Nat.succ_lt_succ ih
  | escape _ _ _ ih =>
    rw [List.length_cons, List.cons_append, List.length_cons, List.length_append]
    omega

/-- `stringRest` reads what is `Quoted`, whatever stands behind the closing quote. -/
theorem Quoted.stringRest (h : Quoted body token) (rest : List Char) :
    stringRest (token ++ rest) = .ok (String.ofList body, rest) := by
  have long := h.length_lt
  unfold Json.stringRest
  rw [h.stringBody (by rw [List.length_append]; omega)]
  rfl

/-- A text has one `Quoted` run in front at most. -/
theorem Quoted.unique {body' token' rest rest' : List Char} (h : Quoted body token) (h' : Quoted body' token')
    (same : token ++ rest = token' ++ rest') : body = body' ∧ rest = rest' := by
  have read := h.stringRest rest
  rw [same, h'.stringRest rest'] at read
  obtain ⟨bodies, rests⟩ := Prod.mk.inj (Except.ok.inj read)
  exact ⟨(String.ofList_injective bodies).symm, rests.symm⟩

/-- All characters of a `Quoted` run are visible. -/
theorem Quoted.visible (h : Quoted body token) : ∀ c ∈ token, IsVisible c := by
  induction h with
  | close => exact List.forall_mem_singleton.2 (by decide)
  | char visible _ _ _ ih => exact List.forall_mem_cons.2 ⟨visible, ih⟩
  | escape allowed _ _ ih =>
    exact List.forall_mem_append.2
      ⟨List.forall_mem_cons.2 ⟨by decide, fun d mem ↦ (allowed d mem).visible_and_ne.1⟩, ih⟩

/-- In a `Quoted` run a quote behind a comma is not escaped, so it closes the string. -/
theorem Quoted.eq_nil_of_comma (h : Quoted body token) {lead behind : List Char}
    (row : token = lead ++ ',' :: '"' :: behind) : behind = [] := by
  induction h generalizing lead with
  | close =>
    rcases lead with _ | ⟨c, _ | ⟨d, lead⟩⟩ <;> cases row
  | char _ _ _ more ih =>
    rcases lead with _ | ⟨d, lead⟩
    · obtain ⟨-, row⟩ := List.cons.inj row
      -- The quote stands in front of what is left, which is a string only if it ends there.
      cases more with
      | close => exact (List.cons.inj row).2.symm
      | char _ notQuote => exact absurd (List.cons.inj row).1 notQuote
      | escape => exact absurd (List.cons.inj row).1 (by decide)
    · exact ih (List.cons.inj row).2
  | @escape c letters _ _ allowed _ _ ih =>
    rcases lead with _ | ⟨d, lead⟩
    · exact absurd (List.cons.inj row).1 (by decide)
    · rcases List.append_eq_append_iff.1 (List.cons.inj row).2 with ⟨more, -, row⟩ | ⟨more, letters_eq, row⟩
      · exact ih row
      · rcases more with _ | ⟨d, more⟩
        · have there : _ = [] ++ ',' :: '"' :: behind := row.symm
          exact ih there
        · have comma : d = ',' := (List.cons.inj row).1.symm
          have mem : d ∈ letters := letters_eq ▸ by simp
          exact absurd comma (allowed d mem).visible_and_ne.2

end Quoted

/-! ## Scalars -/

/-- `IsScalar v c token`: the run `c :: token` is a token that `scalar` reads as `v`, whatever stands behind it if
only that does not go on a number. -/
structure IsScalar (v : Json) (c : Char) (token : List Char) : Prop where
  /-- The token has no control characters in it. -/
  visible : ∀ d ∈ c :: token, IsVisible d
  /-- A quote behind a comma ends the token. -/
  closes : ∀ lead behind, c :: token = lead ++ ',' :: '"' :: behind → behind = []
  /-- The token is read as the value. -/
  reads : ∀ more, Ends more → scalar c (token ++ more) = .ok (v, more)

/-- A token does not begin with white space, a comma or a bracket. -/
theorem IsScalar.head {v : Json} {c : Char} {token : List Char} (h : IsScalar v c token) :
    ¬ isSpace c ∧ c ∉ [',', '[', ']', '\x7b', '\x7d'] := by
  have read := h.reads [] (by rintro d ⟨⟩)
  constructor
  · intro space
    simp only [isSpace, Bool.or_eq_true, beq_iff_eq] at space
    rcases space with ((rfl | rfl) | rfl) | rfl <;> cases read
  · intro mem
    simp only [List.mem_cons, List.not_mem_nil, or_false] at mem
    rcases mem with rfl | rfl | rfl | rfl | rfl <;> cases read

theorem closes_of_forall_ne {cs : List Char} (h : ∀ c ∈ cs, c ≠ ',') (lead behind : List Char)
    (row : cs = lead ++ ',' :: '"' :: behind) : behind = [] :=
  absurd rfl (h ',' (row ▸ by simp))

theorem visible_and_ne_of_isNumberChar {c : Char} (h : isNumberChar c) : IsVisible c ∧ c ≠ ',' := by
  constructor
  · simp only [isNumberChar, Char.isDigit, Bool.or_eq_true, Bool.and_eq_true, decide_eq_true_eq, beq_iff_eq] at h
    rcases h with ((((⟨low, -⟩ | rfl) | rfl) | rfl) | rfl) | rfl
    · exact Nat.le_trans (by decide : 32 ≤ 48) (UInt32.le_iff_toNat_le.1 low)
    all_goals decide
  · rintro rfl
    exact absurd h (by decide)

/-- A run without commas that `scalar` reads as a value, whatever stands behind it, is a token. -/
theorem isScalar_of_forall {v : Json} {c : Char} {token : List Char}
    (allowed : ∀ d ∈ c :: token, IsVisible d ∧ d ≠ ',')
    (reads : ∀ more, Ends more → scalar c (token ++ more) = .ok (v, more)) : IsScalar v c token :=
  ⟨fun d mem ↦ (allowed d mem).1, closes_of_forall_ne fun d mem ↦ (allowed d mem).2, reads⟩

section Scalars

variable {v : Json} {c : Char} {letters cs rest : List Char}

/-- A `word` is a token. -/
theorem exists_isScalar_word (step : ∀ cs, scalar c cs = do return (v, (← word letters cs).2))
    (allowed : ∀ d ∈ c :: letters, IsVisible d ∧ d ≠ ',') {w : Json} (read : scalar c cs = .ok (w, rest)) :
    ∃ token, cs = token ++ rest ∧ IsScalar w c token := by
  rw [step] at read
  obtain ⟨⟨⟨⟩, behind⟩, found, done⟩ := exists_of_bind read
  obtain rfl := word_eq_ok_iff.1 found
  cases done
  refine ⟨letters, rfl, isScalar_of_forall allowed fun more _ ↦ ?_⟩
  rw [step, word_eq_ok_iff.2 rfl]
  rfl

/-- Behind a quote `scalar` is `stringRest`. -/
theorem scalar_quote (cs : List Char) :
    scalar '"' cs = stringRest cs >>= fun read ↦ pure (.string read.1, read.2) := rfl

/-- What `scalar` reads is a token. -/
theorem exists_isScalar (read : scalar c cs = .ok (v, rest)) : ∃ token, cs = token ++ rest ∧ IsScalar v c token := by
  by_cases null : c = 'n'
  · subst null
    exact exists_isScalar_word (fun _ ↦ rfl) (by simp [IsVisible]) read
  by_cases true : c = 't'
  · subst true
    exact exists_isScalar_word (fun _ ↦ rfl) (by simp [IsVisible]) read
  by_cases false : c = 'f'
  · subst false
    exact exists_isScalar_word (fun _ ↦ rfl) (by simp [IsVisible]) read
  by_cases minus : c = '-'
  · subst minus
    obtain ⟨⟨n, behind⟩, found, done⟩ := exists_of_bind read
    cases done
    obtain ⟨token, rfl, allowed, again⟩ := takes_numeral _ _ _ found
    refine ⟨token, rfl, isScalar_of_forall ?_ fun more fit ↦ ?_⟩
    · exact List.forall_mem_cons.2 ⟨by decide, fun d mem ↦ visible_and_ne_of_isNumberChar (allowed d mem)⟩
    · have step : scalar '-' (token ++ more) =
          numeral Bool.true (token ++ more) >>= fun read ↦ pure (.number read.1, read.2) := rfl
      rw [step, again more fit]
      rfl
  by_cases digit : c.isDigit
  · have step (cs : List Char) :
        scalar c cs = numeral Bool.false (c :: cs) >>= fun read ↦ pure (.number read.1, read.2) := by
      simp only [scalar, null, true, false, minus, digit, if_false, if_true]
    rw [step] at read
    obtain ⟨⟨n, behind⟩, found, done⟩ := exists_of_bind read
    cases done
    obtain ⟨token, row, allowed, again⟩ := takes_numeral _ _ _ found
    rcases token with _ | ⟨d, token⟩
    · cases again [] (by rintro d ⟨⟩)
    · obtain ⟨rfl, rfl⟩ := List.cons.inj row
      refine ⟨token, rfl, isScalar_of_forall (fun d mem ↦ visible_and_ne_of_isNumberChar (allowed d mem))
        fun more fit ↦ ?_⟩
      rw [step, ← List.cons_append, again more fit]
      rfl
  by_cases quote : c = '"'
  · subst quote
    obtain ⟨⟨s, behind⟩, found, done⟩ := exists_of_bind read
    cases done
    obtain ⟨⟨body, behind⟩, string, done⟩ := exists_of_bind found
    cases done
    obtain ⟨token, rfl, quoted⟩ := exists_quoted string
    refine ⟨token, rfl, List.forall_mem_cons.2 ⟨by decide, quoted.visible⟩, fun lead behind row ↦ ?_, fun more _ ↦ ?_⟩
    · rcases lead with _ | ⟨d, lead⟩
      · exact absurd (List.cons.inj row).1 (by decide)
      · exact quoted.eq_nil_of_comma (List.cons.inj row).2
    · rw [scalar_quote, quoted.stringRest]
      rfl
  · simp only [scalar, null, true, false, minus, digit, quote, if_false] at read
    cases read

end Scalars

end Gazette.Json
