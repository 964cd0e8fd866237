import Gazette.Time.Calendar

/-!
# Days and dates

The calendar repeats after an era of four centuries, which begins with the first of March. A century has
twenty-five quadrennia of four years each, and each of these parts is a day shorter than its parts would make it
but for the last one. `EraDay` gives the place of a day in its era in this way, and from it follow the year, the
month and the day of the month that `Date.ofDays` computes: they are a day of the calendar
(`Date.isValid_ofDays`), and `Date.toDays` leads back (`Date.toDays_ofDays`).
-/

namespace Gazette.Time

/-! ## The place of a day in its era -/

/-- The day `n` of an era by its century, the quadrennium of the century, the year of the quadrennium and the day
of the year, all counted from zero. -/
structure EraDay (n century quad year day : Int) : Prop where
  /-- An era has four centuries. -/
  century_mem : 0 ≤ century ∧ century ≤ 3
  /-- A century has twenty-five quadrennia. -/
  quad_mem : 0 ≤ quad ∧ quad ≤ 24
  /-- A quadrennium has four years. -/
  year_mem : 0 ≤ year ∧ year ≤ 3
  /-- A year has at most 366 days. -/
  day_mem : 0 ≤ day ∧ day ≤ 365
  /-- The last year of a quadrennium has a leap day, but for that of a century which is not the last one. -/
  leap : day = 365 → year = 3 ∧ (quad = 24 → century = 3)
  /-- The parts add up. -/
  sum : n = 36524 * century + 1461 * quad + 365 * year + day

/-- Each day of an era has a place in it: an `EraDay`. -/
theorem exists_eraDay {n : Int} (low : 0 ≤ n) (high : n < 146097) :
    ∃ century quad year day, EraDay n century quad year day := by
  have centuries : ∃ century r, (0 ≤ century ∧ century ≤ 3) ∧ (0 ≤ r ∧ r ≤ 36524) ∧
      n = 36524 * century + r ∧ (r = 36524 → century = 3) :=
    ⟨n / 36524 - n / 146096, n - 36524 * (n / 36524 - n / 146096), by omega⟩
  obtain ⟨century, r, century_mem, r_mem, rfl, last⟩ := centuries
  have quads : ∃ quad s, (0 ≤ quad ∧ quad ≤ 24) ∧ (0 ≤ s ∧ s ≤ 1460) ∧ r = 1461 * quad + s ∧
      (quad = 24 ∧ s = 1460 → century = 3) :=
    ⟨r / 1461, r % 1461, by omega⟩
  obtain ⟨quad, s, quad_mem, s_mem, rfl, last⟩ := quads
  have years : ∃ year day, (0 ≤ year ∧ year ≤ 3) ∧ (0 ≤ day ∧ day ≤ 365) ∧ s = 365 * year + day ∧
      (day = 365 → year = 3) :=
    ⟨s / 365 - s / 1460, s - 365 * (s / 365 - s / 1460), by omega⟩
  obtain ⟨year, day, year_mem, day_mem, rfl, leap⟩ := years
  exact ⟨century, quad, year, day, century_mem, quad_mem, year_mem, day_mem, by omega, by omega⟩

section Place

variable {n century quad year day : Int} (h : EraDay n century quad year day)
include h

/-- What is missing of centuries up to an `EraDay` is their number. -/
theorem EraDay.centuries : n / 36524 - n / 146096 = century := by
  obtain ⟨century_mem, quad_mem, year_mem, day_mem, leap, rfl⟩ := h
  have rest : 0 ≤ 1461 * quad + 365 * year + day ∧
      (1461 * quad + 365 * year + day < 36524 ∨ 1461 * quad + 365 * year + day = 36524 ∧ century = 3) := by
    omega
  rw [Int.add_assoc, Int.add_assoc, ← Int.add_assoc (1461 * quad)]
  clear leap
  generalize 1461 * quad + 365 * year + day = r at *
  omega

/-- The year of the era, as `Date.ofDays` computes it from the leap days before an `EraDay`. -/
theorem EraDay.yearOfEra :
    (n - n / 1460 + n / 36524 - n / 146096) / 365 = 100 * century + 4 * quad + year := by
  have centuries := h.centuries
  obtain ⟨century_mem, quad_mem, year_mem, day_mem, leap, sum⟩ := h
  -- Only at the end of the last year of a quadrennium one leap day more has been counted.
  have quads : n / 1460 = 25 * century + quad ∨
      n / 1460 = 25 * century + quad + 1 ∧ year = 3 ∧ 1 ≤ day := by
    omega
  omega

/-- The day of the year, as `Date.ofDays` computes it from the year of the era. -/
theorem EraDay.dayOfYear :
    n - (365 * (100 * century + 4 * quad + year) + (100 * century + 4 * quad + year) / 4 -
      (100 * century + 4 * quad + year) / 100) = day := by
  obtain ⟨century_mem, quad_mem, year_mem, day_mem, leap, sum⟩ := h
  omega

/-- An `EraDay` is a leap day only if the year in which its year ends is a leap year. -/
theorem EraDay.isLeapYear (era : Int) (last : day = 365) :
    isLeapYear (100 * century + 4 * quad + year + era * 400 + 1) := by
  obtain ⟨century_mem, quad_mem, year_mem, day_mem, leap, sum⟩ := h
  have whole := leap last
  unfold Time.isLeapYear
  simp only [Bool.and_eq_true, Bool.or_eq_true, beq_iff_eq, bne_iff_ne]
  omega

end Place

/-! ## Dates -/

namespace Date

/-- The date of a day of a year that begins with the first of March. -/
def ofMarch (year day : Int) : Date :=
  let monthFromMarch := (5 * day + 2) / 153
  let month := (if monthFromMarch < 10 then monthFromMarch + 3 else monthFromMarch - 9).toNat
  ⟨if month ≤ 2 then year + 1 else year, month, (day - (153 * monthFromMarch + 2) / 5 + 1).toNat⟩

/-- `ofDays` is `ofMarch` of the year and the day that the `EraDay` has. -/
theorem ofDays_eq {days era century quad year day : Int}
    (h : EraDay (days + 719468 - era * 146097) century quad year day)
    (split : (days + 719468).fdiv 146097 = era) :
    ofDays days = ofMarch (100 * century + 4 * quad + year + era * 400) day := by
  simp only [ofDays, split, h.yearOfEra, h.dayOfYear, ofMarch]

/-- `ofMarch` gives a date of the calendar. -/
theorem isValid_ofMarch {year day : Int} (low : 0 ≤ day) (high : day ≤ 365)
    (leap : day = 365 → isLeapYear (year + 1)) : (ofMarch year day).isValid := by
  have months : (5 * day + 2) / 153 ∈ [0, 1, 2, 3, 4, 5, 6, 7, 8, 9, 10] ∨ (5 * day + 2) / 153 = 11 := by
    simp only [List.mem_cons, List.not_mem_nil]
    omega
  unfold ofMarch isValid
  generalize hm : (5 * day + 2) / 153 = m at *
  simp only [List.mem_cons, List.not_mem_nil, or_false] at months
  rcases months with (rfl | rfl | rfl | rfl | rfl | rfl | rfl | rfl | rfl | rfl | rfl) | rfl
  -- February is the last month of the year; for all others it does not matter which year it is.
  case inr =>
    by_cases here : isLeapYear (year + 1)
    · simp [daysInMonth, here]
      omega
    · have short : day ≠ 365 := fun last ↦ here (leap last)
      simp [daysInMonth, here]
      omega
  all_goals
    simp [daysInMonth]
    omega

/-- `toDays` of `ofMarch` counts the days of the eras and years before. -/
theorem toDays_ofMarch {year day : Int} (low : 0 ≤ day) (high : day ≤ 365) :
    (ofMarch year day).toDays =
      year.fdiv 400 * 146097 + ((year - year.fdiv 400 * 400) * 365 +
        (year - year.fdiv 400 * 400) / 4 - (year - year.fdiv 400 * 400) / 100 + day) - 719468 := by
  have month : 0 ≤ (5 * day + 2) / 153 ∧ (5 * day + 2) / 153 ≤ 11 := by omega
  have inMonth : 0 ≤ day - (153 * ((5 * day + 2) / 153) + 2) / 5 := by omega
  unfold ofMarch toDays
  generalize (5 * day + 2) / 153 = m at *
  have march : (if (if m < 10 then m + 3 else m - 9).toNat ≤ 2 then
      (if (if m < 10 then m + 3 else m - 9).toNat ≤ 2 then year + 1 else year) - 1
    else (if (if m < 10 then m + 3 else m - 9).toNat ≤ 2 then year + 1 else year)) = year := by
    split <;> omega
  have months : (((if m < 10 then m + 3 else m - 9).toNat : Int) + 9) % 12 = m := by
    split <;> omega
  dsimp only
  rw [march, months]
  omega

/-- `ofDays` gives a date of the calendar, and `toDays` undoes it. -/
theorem isValid_ofDays_and_toDays_ofDays (days : Int) :
    (ofDays days).isValid ∧ (ofDays days).toDays = days := by
  obtain ⟨era, split⟩ : ∃ era, (days + 719468).fdiv 146097 = era := ⟨_, rfl⟩
  have inEra : 0 ≤ days + 719468 - era * 146097 ∧ days + 719468 - era * 146097 < 146097 := by
    rw [Int.fdiv_eq_ediv_of_nonneg _ (by decide)] at split
    omega
  obtain ⟨century, quad, year, day, place⟩ := exists_eraDay inEra.1 inEra.2
  rw [ofDays_eq place split]
  refine ⟨isValid_ofMarch place.day_mem.1 place.day_mem.2 (place.isLeapYear era), ?_⟩
  rw [toDays_ofMarch place.day_mem.1 place.day_mem.2]
  have years : (100 * century + 4 * quad + year + era * 400).fdiv 400 = era := by
    rw [Int.fdiv_eq_ediv_of_nonneg _ (by decide)]
    obtain ⟨century_mem, quad_mem, year_mem, -, -, -⟩ := place
    omega
  have back := place.dayOfYear
  rw [years]
  omega

/-- `ofDays` gives a date of the calendar. -/
theorem isValid_ofDays (days : Int) : (ofDays days).isValid := (isValid_ofDays_and_toDays_ofDays days).1

/-- `toDays` undoes `ofDays`. -/
theorem toDays_ofDays (days : Int) : (ofDays days).toDays = days :=
  (isValid_ofDays_and_toDays_ofDays days).2

end Date

end Gazette.Time
