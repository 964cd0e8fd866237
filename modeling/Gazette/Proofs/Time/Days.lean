import Gazette.Proofs.Time.Calendar
import Mathlib.Tactic.IntervalCases

/-!
# The day of a date

`Date.ofDays` undoes `Date.toDays` on the dates of the calendar (`Date.ofDays_toDays`), so no two of them share
a day. The day before has the date that a calendar shows before (`Date.yesterday`): the day before in the month,
else the last day of the month before, else the last day of the year before.
-/

namespace Gazette.Time.Date

/-! ## Dates by the year that begins in March -/

section March

variable {year day : Int}

/-- A day of a year that begins with the first of March has a place in its era: an `EraDay`. -/
theorem eraDay_of_march (low : 0 ≤ day) (high : day ≤ 365) (leap : day = 365 → isLeapYear (year + 1)) :
    EraDay ((year - year.fdiv 400 * 400) * 365 + (year - year.fdiv 400 * 400) / 4 -
        (year - year.fdiv 400 * 400) / 100 + day)
      ((year - year.fdiv 400 * 400) / 100) ((year - year.fdiv 400 * 400) % 100 / 4)
      ((year - year.fdiv 400 * 400) % 4) day := by
  rw [Int.fdiv_eq_ediv_of_nonneg _ (by decide)]
  refine ⟨by omega, by omega, by omega, ⟨low, high⟩, fun last ↦ ?_, by omega⟩
  have ends := leap last
  simp only [isLeapYear, Bool.and_eq_true, Bool.or_eq_true, beq_iff_eq, bne_iff_ne] at ends
  omega

/-- `ofDays` undoes `toDays` on what `ofMarch` gives. -/
theorem ofDays_toDays_ofMarch (low : 0 ≤ day) (high : day ≤ 365) (leap : day = 365 → isLeapYear (year + 1)) :
    ofDays (ofMarch year day).toDays = ofMarch year day := by
  have place := eraDay_of_march low high leap
  have count : (ofMarch year day).toDays = _ := toDays_ofMarch low high
  obtain ⟨era, split⟩ : ∃ era, year.fdiv 400 = era := ⟨_, rfl⟩
  rw [split] at place count
  have inEra : era * 400 ≤ year ∧ year < era * 400 + 400 := by
    rw [Int.fdiv_eq_ediv_of_nonneg _ (by decide)] at split
    omega
  have behind : (ofMarch year day).toDays + 719468 - era * 146097 =
      (year - era * 400) * 365 + (year - era * 400) / 4 - (year - era * 400) / 100 + day := by
    omega
  have whole : ((ofMarch year day).toDays + 719468).fdiv 146097 = era := by
    have last := place.leap
    rw [Int.fdiv_eq_ediv_of_nonneg _ (by decide)]
    omega
  rw [← behind] at place
  rw [ofDays_eq place whole]
  have years : 100 * ((year - era * 400) / 100) + 4 * ((year - era * 400) % 100 / 4) + (year - era * 400) % 4 +
      era * 400 = year := by
    omega
  rw [years]

end March

variable {d : Date}

/-- Each date of the calendar is one that `ofMarch` gives. -/
theorem exists_ofMarch (valid : d.isValid) :
    ∃ year day, (0 ≤ day ∧ day ≤ 365) ∧ (day = 365 → isLeapYear (year + 1)) ∧ ofMarch year day = d := by
  obtain ⟨year, month, day⟩ := d
  simp only [isValid, daysInMonth, Bool.and_eq_true, decide_eq_true_iff] at valid
  obtain ⟨⟨⟨first, last⟩, least⟩, most⟩ := valid
  refine ⟨if month ≤ 2 then year - 1 else year, (153 * (((month : Int) + 9) % 12) + 2) / 5 + day - 1, ?_, ?_, ?_⟩
  · split at most <;> split at most <;> omega
  · intro leap
    -- Only the last day of February can be so late in the year.
    obtain ⟨rfl, rfl⟩ : month = 2 ∧ day = 29 := by
      split at most <;> split at most <;> omega
    cases leaps : isLeapYear year with
    | false => simp [leaps] at most
    | true => simpa using leaps
  · have long : day ≤ 31 ∧ (month = 2 → day ≤ 29) ∧
        (month = 4 ∨ month = 6 ∨ month = 9 ∨ month = 11 → day ≤ 30) := by
      split at most <;> split at most <;> omega
    have place : (5 * ((153 * (((month : Int) + 9) % 12) + 2) / 5 + day - 1) + 2) / 153 = (month + 9) % 12 := by
      interval_cases month <;> omega
    unfold ofMarch
    rw [place]
    have march : (if ((month : Int) + 9) % 12 < 10 then ((month : Int) + 9) % 12 + 3
        else (month + 9) % 12 - 9).toNat = month := by
      split <;> omega
    simp only [march, mk.injEq, true_and]
    exact ⟨by split <;> omega, by omega⟩

/-- `ofDays` undoes `toDays` on the dates of the calendar. -/
theorem ofDays_toDays (valid : d.isValid) : ofDays d.toDays = d := by
  obtain ⟨year, day, ⟨low, high⟩, leap, rfl⟩ := exists_ofMarch valid
  exact ofDays_toDays_ofMarch low high leap

/-! ## The day before -/

/-- The date of the day before, read off the calendar. -/
def yesterday (d : Date) : Date :=
  if 1 < d.day then ⟨d.year, d.month, d.day - 1⟩
  else if 1 < d.month then ⟨d.year, d.month - 1, daysInMonth d.year (d.month - 1)⟩
  else ⟨d.year - 1, 12, 31⟩

/-- A month begins on the day behind the last one of the month before, whose number is `daysInMonth`. -/
theorem toDays_firstOfMonth (year : Int) {month : Nat} (first : 2 ≤ month) (last : month ≤ 12) :
    toDays ⟨year, month, 1⟩ = toDays ⟨year, month - 1, daysInMonth year (month - 1)⟩ + 1 := by
  by_cases march : month = 3
  · subst march
    have rule : isLeapYear year ↔ year % 4 = 0 ∧ (year % 100 ≠ 0 ∨ year % 400 = 0) := by simp [isLeapYear]
    by_cases leap : isLeapYear year <;> rw [rule] at leap <;>
      simp [toDays, daysInMonth, rule, leap, Int.fdiv_eq_ediv_of_nonneg] <;> omega
  · interval_cases month <;> simp [toDays, daysInMonth] at march ⊢ <;> omega

/-- `toDays` of `yesterday` is one day less. -/
theorem toDays_yesterday (valid : d.isValid) : d.yesterday.toDays = d.toDays - 1 := by
  obtain ⟨year, month, day⟩ := d
  simp only [isValid, Bool.and_eq_true, decide_eq_true_iff] at valid
  obtain ⟨⟨⟨first, last⟩, least⟩, -⟩ := valid
  unfold yesterday
  dsimp only
  split
  next inMonth =>
    simp only [toDays]
    omega
  next begins =>
    obtain rfl : day = 1 := by omega
    split
    next inYear => rw [toDays_firstOfMonth year inYear last, Int.add_sub_cancel]
    next begins =>
      obtain rfl : month = 1 := by omega
      simp [toDays]
      omega

/-- `yesterday` is a date of the calendar. -/
theorem isValid_yesterday (valid : d.isValid) : d.yesterday.isValid := by
  obtain ⟨year, month, day⟩ := d
  have days (month : Nat) : 28 ≤ daysInMonth year month := by
    unfold daysInMonth
    split <;> split <;> omega
  simp only [isValid, Bool.and_eq_true, decide_eq_true_iff] at valid
  obtain ⟨⟨⟨first, last⟩, least⟩, most⟩ := valid
  unfold yesterday isValid
  dsimp only
  split
  next inMonth =>
    simp only [Bool.and_eq_true, decide_eq_true_iff]
    omega
  next begins =>
    split
    next inYear =>
      have least := days (month - 1)
      simp only [Bool.and_eq_true, decide_eq_true_iff]
      omega
    next begins => rfl

/-- The day before a date has the date `yesterday`. -/
theorem ofDays_toDays_sub_one (valid : d.isValid) : ofDays (d.toDays - 1) = d.yesterday := by
  rw [← toDays_yesterday valid, ofDays_toDays (isValid_yesterday valid)]

end Gazette.Time.Date
