import Gazette.Proofs.Number.Digits
import Gazette.Proofs.Steps
import Gazette.Proofs.Time.Calendar
import Gazette.Time.Timestamp

/-!
# Reading timestamps back

`Instant.toText` writes an instant, and `Instant.ofLooseTimestamp` reads it back as the same one if it is
`Regular`: its year is one that dates may have, and a leap second stands at the end of a minute
(`Regular.ofLooseTimestamp_toText`). `Fields.toInstant` gives a `Regular` instant if the offset of the fields
counts whole minutes, because then it keeps the second of the minute (`Fields.regular_of_toInstant`).
-/

namespace Gazette.Time

open Number

/-! ## Padded numbers -/

section Padded

variable {width n : Nat}

/-- The characters of `padded` are digits. -/
theorem isDigit_of_mem_padded {c : Char} (mem : c ∈ padded width n) : c.isDigit := by
  rcases List.mem_append.1 mem with zero | digit
  · rw [List.eq_of_mem_replicate zero]
    rfl
  · exact isDigit_of_mem_decimal digit

/-- `valueIn 10` undoes `padded`. -/
theorem valueIn_padded : valueIn 10 (padded width n) = n := by
  rw [padded, valueIn_replicate_append, valueIn_decimal]

/-- `padded width` has at least `width` digits. -/
theorem le_length_padded : width ≤ (padded width n).length := by
  rw [padded, List.length_append, List.length_replicate]
  omega

/-- `padded width` has exactly `width` digits if the number fits. -/
theorem length_padded (positive : 0 < width) (h : n < Nat.pow 10 width) : (padded width n).length = width := by
  have fits := length_decimal_le positive h
  rw [padded, List.length_append, List.length_replicate]
  omega

end Padded

namespace Timestamp

/-! ## Fields -/

section Fields

variable {digits rest : List Char} {least most low high n : Nat}

/-- `number` reads digits up to the greatest count of them, or up to something else. -/
theorem number_append (all : ∀ c ∈ digits, c.isDigit) (enough : least ≤ digits.length)
    (few : digits.length ≤ most) (ends : digits.length = most ∨ ∀ c ∈ rest.head?, ¬ c.isDigit) :
    number least most (digits ++ rest) = .ok (valueIn 10 digits, rest) := by
  have behind : (rest.take (most - digits.length)).takeWhile Char.isDigit = [] := by
    rcases ends with full | other
    · rw [full, Nat.sub_self, List.take_zero, List.takeWhile_nil]
    · cases rest with
      | nil => rw [List.take_nil, List.takeWhile_nil]
      | cons c rest =>
        cases most - digits.length with
        | zero => rfl
        | succ k =>
          rw [List.take_succ_cons, List.takeWhile_cons_of_neg (other c rfl)]
  have taken : ((digits ++ rest).take most).takeWhile Char.isDigit = digits := by
    rw [List.take_append, List.take_of_length_le few, List.takeWhile_append_of_pos all, behind,
      List.append_nil]
  unfold number
  simp only [taken]
  rw [if_neg (Nat.not_lt.2 enough), List.drop_left]

/-- `field` reads a number of two digits if it is in the range. -/
theorem field_padded (small : n < 100) (atLeast : low ≤ n) (atMost : n ≤ high) :
    field 1 2 low high (padded 2 n ++ rest) = .ok (n, rest) := by
  have two : (padded 2 n).length = 2 := length_padded (by decide) small
  have read : number 1 2 (padded 2 n ++ rest) = .ok (n, rest) := by
    rw [number_append (fun c ↦ isDigit_of_mem_padded) (by omega) (by omega) (.inl two), valueIn_padded]
  unfold field
  simp only [read, bind, Except.bind, atLeast, atMost, and_self, if_true, pure, Except.pure]

/-- `spaced` skips nothing where no white space stands in front. -/
theorem spaced_of_head {α : Type} {read : Reads α} {cs : List Char}
    (visible : ∀ c ∈ cs.head?, ¬ Chars.isBlank c) : spaced read cs = read cs := by
  unfold spaced
  cases cs with
  | nil => rfl
  | cons c cs => rw [List.dropWhile_cons_of_neg (visible c rfl)]

/-- Digits are not blank. -/
theorem visible_of_isDigit {c : Char} (h : c.isDigit) : ¬ Chars.isBlank c := by
  intro blank
  simp only [Char.isDigit, Chars.isBlank, Bool.and_eq_true, Bool.or_eq_true, decide_eq_true_iff, beq_iff_eq,
    ge_iff_le, UInt32.le_iff_toNat_le] at h blank
  have low : 48 ≤ c.toNat := h.1
  have high : c.toNat ≤ 57 := h.2
  omega

/-- `padded` begins with a digit. -/
theorem padded_eq_cons {width n : Nat} (positive : 0 < width) :
    ∃ c more, padded width n = c :: more ∧ c.isDigit := by
  cases row : padded width n with
  | nil =>
    have long : width ≤ (padded width n).length := le_length_padded
    rw [row, List.length_nil] at long
    omega
  | cons c more =>
    exact ⟨c, more, rfl, isDigit_of_mem_padded (by rw [row]; exact List.mem_cons_self)⟩

/-- `spaced` leaves `field` to read a number of two digits. -/
theorem spaced_field_padded (small : n < 100) (atLeast : low ≤ n) (atMost : n ≤ high) :
    spaced (field 1 2 low high) (padded 2 n ++ rest) = .ok (n, rest) := by
  obtain ⟨c, more, row, digit⟩ := padded_eq_cons (n := n) (show 0 < 2 by decide)
  rw [spaced_of_head, field_padded small atLeast atMost]
  rw [row]
  rintro d ⟨⟩
  exact visible_of_isDigit digit

/-- `looseYear` reads a year of four digits as it is. -/
theorem looseYear_padded (small : n ≤ 9999) : looseYear (padded 4 n ++ rest) = .ok ((n : Int), rest) := by
  have four : (padded 4 n).length = 4 := length_padded (by decide) (Nat.lt_succ_of_le small)
  have read : number 1 4 (padded 4 n ++ rest) = .ok (n, rest) := by
    rw [number_append (fun c ↦ isDigit_of_mem_padded) (by omega) (by omega) (.inl four), valueIn_padded]
  obtain ⟨c, more, row, digit⟩ := padded_eq_cons (n := n) (show 0 < 4 by decide)
  rw [row] at read ⊢
  unfold looseYear
  split
  next minus =>
    cases minus
    cases digit
  next plus =>
    cases plus
    cases digit
  next => rw [read]; rfl

/-- `looseYear` reads a year behind a sign, which may have more digits. -/
theorem looseYear_signed {year : Int} (low : -2147483648 ≤ year) (high : year ≤ 2147483647) :
    looseYear ((if year < 0 then '-' else '+') :: padded 4 year.natAbs ++ '-' :: rest) =
      .ok (year, '-' :: rest) := by
  have ends : ∀ c ∈ ('-' :: rest).head?, ¬ c.isDigit := by
    rintro c ⟨⟩
    decide
  generalize '-' :: rest = rest at *
  have long : 4 ≤ (padded 4 year.natAbs).length := le_length_padded
  have read : number 1 (padded 4 year.natAbs ++ rest).length (padded 4 year.natAbs ++ rest) =
      .ok (year.natAbs, rest) := by
    rw [number_append (fun c ↦ isDigit_of_mem_padded) (by omega)
      (by rw [List.length_append]; omega) (.inr ends), valueIn_padded]
  have some : (padded 4 year.natAbs ++ rest).isEmpty = false := by
    rw [List.isEmpty_eq_false_iff, ← List.length_pos_iff, List.length_append]
    omega
  by_cases negative : year < 0
  · have same : -1 * (year.natAbs : Int) = year := by omega
    simp only [negative, if_true, List.cons_append, looseYear, some, read, bind, Except.bind, same, low, high,
      and_self, pure, Except.pure, Bool.false_eq_true, if_false]
  · have same : 1 * (year.natAbs : Int) = year := by omega
    simp only [negative, if_false, List.cons_append, looseYear, some, read, bind, Except.bind, same, low, high,
      and_self, pure, Except.pure, Bool.false_eq_true, if_true]

/-- `looseYear` reads what `yearText` has written. -/
theorem spaced_looseYear_yearText {year : Int} (low : -2147483648 ≤ year) (high : year ≤ 2147483647) :
    spaced looseYear (yearText year ++ '-' :: rest) = .ok (year, '-' :: rest) := by
  unfold yearText
  split
  next small =>
    obtain ⟨c, more, row, digit⟩ := padded_eq_cons (n := year.toNat) (show 0 < 4 by decide)
    rw [spaced_of_head, looseYear_padded (by omega), Int.toNat_of_nonneg small.1]
    rw [row]
    rintro d ⟨⟩
    exact visible_of_isDigit digit
  next =>
    rw [spaced_of_head, looseYear_signed low high]
    rintro d ⟨⟩
    split <;> decide

/-- `mark` reads its character where that stands. -/
theorem spaced_mark {m : Char} (visible : ¬ Chars.isBlank m) : spaced (mark m) (m :: rest) = .ok ((), rest) := by
  rw [spaced_of_head]
  · exact if_pos rfl
  · rintro c ⟨⟩
    exact visible

/-- `optionalFraction` reads the digits of a fraction in their places. -/
theorem optionalFraction_padded {width : Nat} (positive : 0 < width) (short : width ≤ 9)
    (small : n < Nat.pow 10 width) :
    optionalFraction ('.' :: padded width n ++ ['Z']) = .ok (n * Nat.pow 10 (9 - width), ['Z']) := by
  have length := length_padded positive small
  have read : number 1 9 (padded width n ++ ['Z']) = .ok (n, ['Z']) := by
    rw [number_append (fun c ↦ isDigit_of_mem_padded) (by omega) (by omega) (.inr ?_), valueIn_padded]
    rintro c ⟨⟩
    decide
  have count : (padded width n ++ ['Z']).length - ['Z'].length = width := by
    rw [List.length_append, Nat.add_sub_cancel, length]
  simp only [List.cons_append, optionalFraction, fraction, read, bind, Except.bind, count, pure, Except.pure]
  rfl

end Fields

/-! ## Whole timestamps -/

variable (t : Instant)

/-- `optionalFraction` reads what `Instant.fractionText` has written; where that is nothing, there are no
nanoseconds. -/
theorem optionalFraction_fractionText :
    optionalFraction (t.fractionText ++ ['Z']) = .ok (t.nano % 1000000000, ['Z']) := by
  have small : t.nano % 1000000000 < 1000000000 := Nat.mod_lt _ (by decide)
  unfold Instant.fractionText
  dsimp only
  generalize t.nano % 1000000000 = nano at *
  split
  next none => rw [none]; rfl
  next =>
    split
    next milli =>
      have whole : nano / 1000000 * Nat.pow 10 (9 - 3) = nano := by
        rw [show Nat.pow 10 (9 - 3) = 1000000 from rfl]
        omega
      rw [optionalFraction_padded (by decide) (by decide)
        (show nano / 1000000 < 1000 by omega), whole]
    next =>
      split
      next micro =>
        have whole : nano / 1000 * Nat.pow 10 (9 - 6) = nano := by
          rw [show Nat.pow 10 (9 - 6) = 1000 from rfl]
          omega
        rw [optionalFraction_padded (by decide) (by decide)
          (show nano / 1000 < 1000000 by omega), whole]
      next =>
        rw [optionalFraction_padded (by decide) (by decide) (show nano < 1000000000 from small)]
        exact congrArg (fun n ↦ Except.ok (n, ['Z'])) (Nat.mul_one nano)

/-- The instants that timestamps name. -/
structure Regular : Prop where
  /-- The year is one that dates may have. -/
  year : yearInRange t.date.year
  /-- A day has so many seconds. -/
  second : t.second < 86400
  /-- A second has so many nanoseconds, and a leap second may follow. -/
  nano : t.nano < 2000000000
  /-- A leap second follows only the last second of a minute. -/
  leap : 1000000000 ≤ t.nano → t.second % 60 = 59

variable {t}

/-- `loose` reads a written `Regular` instant in its fields. -/
theorem Regular.loose_toText (h : Regular t) :
    loose t.toText = .ok ⟨t.date, t.second / 3600, t.second / 60 % 60, t.secondOfMinute,
      t.nano % 1000000000, 0⟩ := by
  obtain ⟨year, second, nano, leap⟩ := h
  have years : -262143 ≤ t.date.year ∧ t.date.year ≤ 262142 := by
    simpa [yearInRange] using year
  have valid : t.date.isValid := Date.isValid_ofDays t.day
  have days : daysInMonth t.date.year t.date.month ≤ 31 := by
    unfold daysInMonth
    split <;> split <;> omega
  simp only [Date.isValid, Bool.and_eq_true, decide_eq_true_iff] at valid
  obtain ⟨⟨⟨month, month'⟩, day⟩, day'⟩ := valid
  have minutes : t.secondOfMinute ≤ 60 := by
    unfold Instant.secondOfMinute
    omega
  have text : t.toText = yearText t.date.year ++ '-' :: (padded 2 t.date.month ++ '-' ::
      (padded 2 t.date.day ++ 'T' :: (padded 2 (t.second / 3600) ++ ':' ::
        (padded 2 (t.second / 60 % 60) ++ ':' :: (padded 2 t.secondOfMinute ++
          (t.fractionText ++ ['Z'])))))) := by
    simp only [Instant.toText, Instant.dateText, Instant.clockText, List.append_assoc, List.cons_append]
  -- The year has any number of digits and is ended by its mark; all other fields have exactly two.
  have between (rest : List Char) : separator ('T' :: rest) = .ok ((), rest) := rfl
  have zone : spaced looseOffset ['Z'] = .ok (0, []) := rfl
  unfold loose
  simp only [text, bind, Except.bind, between, zone, optionalFraction_fractionText,
    spaced_looseYear_yearText (show -2147483648 ≤ t.date.year by omega) (by omega),
    spaced_mark (show ¬ Chars.isBlank '-' by decide), spaced_mark (show ¬ Chars.isBlank ':' by decide),
    spaced_field_padded (n := t.date.month) (by omega) month month',
    spaced_field_padded (n := t.date.day) (by omega) day (Nat.le_trans day' days),
    spaced_field_padded (n := t.second / 3600) (by omega) (Nat.zero_le _) (show _ ≤ 23 by omega),
    spaced_field_padded (n := t.second / 60 % 60) (by omega) (Nat.zero_le _) (show _ ≤ 59 by omega),
    spaced_field_padded (n := t.secondOfMinute) (by omega) (Nat.zero_le _) minutes]
  rfl

/-- `Fields.toInstant` leads from the fields of a written `Regular` instant back to it. -/
theorem Regular.toInstant (h : Regular t) :
    Fields.toInstant ⟨t.date, t.second / 3600, t.second / 60 % 60, t.secondOfMinute,
      t.nano % 1000000000, 0⟩ = .ok t := by
  obtain ⟨year, second, nano, leap⟩ := h
  have valid : t.date.isValid := Date.isValid_ofDays t.day
  have days : t.date.toDays = t.day := Date.toDays_ofDays t.day
  have written : (((t.second / 3600 : Nat) : Int) * 3600 + ((t.second / 60 % 60 : Nat) : Int) * 60 +
      ((min t.secondOfMinute 59 : Nat) : Int) - 0) = t.second := by
    unfold Instant.secondOfMinute
    omega
  have today : (t.second : Int).fdiv 86400 = 0 := by
    rw [Int.fdiv_eq_ediv_of_nonneg _ (by decide)]
    omega
  have clock : ((t.second : Int).fmod 86400).toNat = t.second := by
    rw [Int.fmod_eq_emod_of_nonneg _ (by decide)]
    omega
  have fraction : t.nano % 1000000000 + (if t.secondOfMinute = 60 then 1000000000 else 0) = t.nano := by
    unfold Instant.secondOfMinute
    split <;> omega
  have range : yearInRange (Date.ofDays t.day).year := year
  unfold Fields.toInstant
  dsimp only
  rw [written, today, clock, fraction, days, Int.add_zero]
  simp [year, valid, range, pure, Except.pure]

/-- The second of the day on the clock of UTC. It may lie in the day before or behind. -/
def Fields.secondInUtc (f : Fields) : Int := f.hour * 3600 + f.minute * 60 + (min f.second 59 : Nat) - f.offset

/-- `Fields.toInstant` names an instant if the calendar has the date of the fields and the offset does not lead
out of its years. -/
theorem Fields.toInstant_eq_ok_iff {f : Fields} : f.toInstant = .ok t ↔
    (yearInRange f.date.year ∧ f.date.isValid) ∧ (-86400 < f.offset ∧ f.offset < 86400) ∧ yearInRange t.date.year ∧
      t = ⟨f.date.toDays + f.secondInUtc.fdiv 86400, (f.secondInUtc.fmod 86400).toNat,
        f.nano + if f.second = 60 then 1000000000 else 0⟩ := by
  constructor
  · intro named
    unfold Fields.toInstant at named
    simp only [bind, Except.bind, pure, Except.pure] at named
    split at named
    · cases named
    next date =>
    split at named
    · cases named
    next zone =>
    split at named
    · cases named
    next year =>
    cases named
    simp only [Bool.not_eq_true', Bool.not_eq_false, Bool.and_eq_true, decide_eq_true_iff] at date zone year
    exact ⟨date, zone, year, rfl⟩
  · rintro ⟨⟨year, valid⟩, zone, range, rfl⟩
    have inYears : (!yearInRange (Date.ofDays (f.date.toDays + f.secondInUtc.fdiv 86400)).year) = false :=
      congrArg not range
    rw [secondInUtc] at inYears
    unfold Fields.toInstant
    simp only [year, valid, zone.1, zone.2, inYears, bind, Except.bind, pure, Except.pure, decide_true, Bool.and_self,
      Bool.not_true, Bool.false_eq_true, if_false]
    rfl

/-- What `Fields.toInstant` names is `Regular` if the fraction is below a second and the offset has no seconds. -/
theorem Fields.regular_of_toInstant {f : Fields} (nano : f.nano < 1000000000) (zone : f.offset % 60 = 0)
    (named : f.toInstant = .ok t) : Regular t := by
  obtain ⟨-, -, year, rfl⟩ := toInstant_eq_ok_iff.1 named
  have day := Int.fmod_lt_of_pos f.secondInUtc (show (0 : Int) < 86400 by decide)
  refine ⟨year, ?_, ?_, fun leaps ↦ ?_⟩
  · dsimp only
    omega
  · dsimp only
    split <;> omega
  · have last : f.second = 60 := by
      dsimp only at leaps
      split at leaps
      · assumption
      · omega
    -- Where the offset has no seconds, the second of the minute is the same before and behind it.
    dsimp only
    rw [secondInUtc, last, Int.fmod_eq_emod_of_nonneg _ (by decide)]
    omega

/-- `Instant.ofLooseTimestamp` undoes `Instant.toText` on `Regular` instants. -/
theorem Regular.ofLooseTimestamp_toText (h : Regular t) :
    Instant.ofLooseTimestamp (String.ofList t.toText) = .ok t := by
  unfold Instant.ofLooseTimestamp
  rw [String.toList_ofList, h.loose_toText]
  exact h.toInstant

end Timestamp

end Gazette.Time
