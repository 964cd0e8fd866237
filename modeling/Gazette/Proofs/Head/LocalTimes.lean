import Gazette.Head.Basic
import Gazette.Proofs.Chars.Edges
import Gazette.Proofs.Time.Days
import Gazette.Proofs.Time.Exact

/-!
# Local times

Where a head may give a local time, `Head.instantWithOffset?` puts the offset of Taipei, `Head.taipeiOffset`,
behind its date before anything else is tried. A complete timestamp stays what it is, for with another offset
behind it is no timestamp any more (`ofTimestamp?_append_of_some`). A local time becomes the instant eight hours
before it, `Instant.EightHoursBefore`, be that on the same day or, before eight in the morning, on the day
before (`Date.yesterday`).
-/

namespace Gazette

open Number Time Timestamp

/-! ## Eight hours -/

namespace Time

/-- `t.EightHoursBefore f`: the instant `t` lies eight hours before the date and the time of day of `f`, both
taken as they are written. -/
structure Instant.EightHoursBefore (t : Instant) (f : Fields) : Prop where
  /-- Before eight in the morning it is the day before. -/
  date : t.date = if f.hour < 8 then f.date.yesterday else f.date
  /-- The hours go round once a day. -/
  hour : t.second / 3600 = (f.hour + 16) % 24
  /-- The minute is the same. -/
  minute : t.second / 60 % 60 = f.minute
  /-- The second is the same, and a leap second stays one. -/
  second : t.secondOfMinute = f.second
  /-- The fraction is the same. -/
  nano : t.nano % 1000000000 = f.nano

namespace Timestamp

variable {cs : List Char} {f : Fields} {t : Instant}

/-- With the offset of Taipei, `Fields.secondInUtc` lies on the day before exactly before eight in the morning. -/
theorem Written.day_of_east (written : Written cs f) (east : f.offset = 28800) :
    f.secondInUtc.fdiv 86400 = if f.hour < 8 then -1 else 0 := by
  cases written with
  | of year_eq year_digits month day separator hour minute second nano =>
    have hours := hour.le_high
    have minutes := minute.le_high
    rw [Fields.secondInUtc, east, Int.fdiv_eq_ediv_of_nonneg _ (by decide)]
    split <;> omega

/-- With the offset of Taipei, the date in UTC is `f.date`, or `f.date.yesterday` before eight in the morning. -/
theorem Written.date_of_east (written : Written cs f) (east : f.offset = 28800) (valid : f.date.isValid) :
    Date.ofDays (f.date.toDays + f.secondInUtc.fdiv 86400) = if f.hour < 8 then f.date.yesterday else f.date := by
  rw [written.day_of_east east]
  split
  next early => exact Date.ofDays_toDays_sub_one valid
  next late => rw [Int.add_zero, Date.ofDays_toDays valid]

/-- What `Fields.toInstant` makes of fields with the offset of Taipei lies `EightHoursBefore` what is written. -/
theorem Written.eightHoursBefore (written : Written cs f) (east : f.offset = 28800) (named : f.toInstant = .ok t) :
    t.EightHoursBefore f := by
  obtain ⟨⟨-, valid⟩, -, -, rfl⟩ := Fields.toInstant_eq_ok_iff.1 named
  have date := written.date_of_east east valid
  cases written with
  | of year_eq year_digits month day separator hour minute second nano =>
    have hours := hour.le_high
    have minutes := minute.le_high
    have seconds := second.le_high
    have fraction := nano.lt
    have clock : f.secondInUtc.fmod 86400 =
        (f.hour + 16) % 24 * 3600 + f.minute * 60 + (min f.second 59 : Nat) := by
      rw [Fields.secondInUtc, east, Int.fmod_eq_emod_of_nonneg _ (by decide)]
      omega
    refine ⟨date, ?_, ?_, ?_, ?_⟩
    · dsimp only
      omega
    · dsimp only
      omega
    · unfold Instant.secondOfMinute
      dsimp only
      split <;> omega
    · dsimp only
      split <;> omega

/-- `Fields.toInstant` makes an instant of fields with the offset of Taipei exactly if the calendar has their
date. -/
theorem Written.exists_toInstant_iff (written : Written cs f) (east : f.offset = 28800) :
    (∃ t, f.toInstant = .ok t) ↔ f.date.isValid := by
  constructor
  · rintro ⟨t, named⟩
    exact (Fields.toInstant_eq_ok_iff.1 named).1.2
  · intro valid
    have date := written.date_of_east east valid
    cases written with
    | @of f year _ _ _ _ _ _ _ _ year_eq year_digits =>
      have small := valueIn_lt year_digits.all
      rw [year_digits.value, year_digits.length, show Nat.pow 10 4 = 10000 from rfl] at small
      -- The day before may lie in the year before, but no further back.
      have before : f.date.year - 1 ≤ f.date.yesterday.year ∧ f.date.yesterday.year ≤ f.date.year := by
        unfold Date.yesterday
        split
        next => dsimp only; omega
        next => split <;> dsimp only <;> omega
      refine ⟨_, Fields.toInstant_eq_ok_iff.2 ⟨⟨?_, valid⟩, ?_, ?_, rfl⟩⟩
      · simp only [yearInRange, Bool.and_eq_true, decide_eq_true_iff]
        omega
      · omega
      · rw [Instant.date, date, yearInRange, Bool.and_eq_true, decide_eq_true_iff, decide_eq_true_iff]
        split <;> omega

end Timestamp

end Time

namespace Head

/-! ## An offset behind a date -/

section Offset

variable {cs zone : List Char} {f : Fields} {s : String} {t : Instant}

theorem zone_taipeiOffset : Zone taipeiOffset.toList 28800 := by
  have hours : Pair 0 23 8 ['0', '8'] := ⟨⟨List.all_eq_true.1 rfl, rfl, rfl⟩, by decide, by decide⟩
  have minutes : Pair 0 59 0 ['0', '0'] := ⟨⟨List.all_eq_true.1 rfl, rfl, rfl⟩, by decide, by decide⟩
  exact .east hours minutes

/-- `Chars.trim` trims nothing off `taipeiOffset`, so it only trims the front of the date. -/
theorem trim_append_taipeiOffset (s : String) :
    Chars.trim (Text.trim s ++ taipeiOffset).toList = Chars.trim s.toList ++ taipeiOffset.toList := by
  rw [String.toList_append, Text.toList_trim]
  refine Chars.Trimmed.trim_eq ⟨fun c mem ↦ ?_, fun c mem ↦ ?_⟩
  · rw [List.head?_append] at mem
    rcases Option.or_eq_some_iff.1 mem with first | ⟨-, first⟩
    · exact (Chars.trimmed_trim s.toList).head c first
    · cases first
      decide
  · rw [List.getLast?_append] at mem
    cases mem
    decide

/-- A timestamp with `taipeiOffset` behind it is none: `Instant.ofTimestamp?` finds two offsets. -/
theorem ofTimestamp?_append_of_some (h : Instant.ofTimestamp? s = some t) :
    Instant.ofTimestamp? (Text.trim s ++ taipeiOffset) = none := by
  obtain ⟨f, read, -⟩ := ofTimestamp?_eq_some_iff.1 h
  obtain ⟨front, zone, written, offset, row⟩ := exists_written_of_exact read
  have tooLong : exact (Chars.trim s.toList ++ taipeiOffset.toList) = .error .tooLong := by
    rw [row, List.append_assoc, written.exact_append offset.ends, offset.zoned_append (by decide)]
  rw [Option.eq_none_iff_forall_ne_some]
  intro u named
  obtain ⟨g, read, -⟩ := ofTimestamp?_eq_some_iff.1 named
  rw [trim_append_taipeiOffset, tooLong] at read
  cases read

/-- What `exact` reads with `taipeiOffset` behind it is a `Written` text without it. -/
theorem written_of_exact_append (h : exact (cs ++ taipeiOffset.toList) = .ok f) : Written cs f ∧ f.offset = 28800 := by
  obtain ⟨front, zone, written, offset, row⟩ := exists_written_of_exact h
  have six : zone.length = 6 := by
    have last : taipeiOffset.toList = "+08:0".toList ++ ['0'] := by decide
    rw [last, ← List.append_assoc] at row
    exact offset.length_eq_six row.symm rfl
  obtain ⟨rfl, same⟩ := List.append_inj' row six.symm
  rw [← same] at offset
  have east : Timestamp.offset (mark ':') (taipeiOffset.toList ++ []) = .ok (28800, []) := zone_taipeiOffset.offset
  have shifts := east.symm.trans offset.offset
  exact ⟨written, (Prod.mk.inj (Except.ok.inj shifts)).1.symm⟩

end Offset

variable (h : Head)

/-- `instantWithOffset?` reads a date with `taipeiOffset` behind it, or else as it stands. -/
theorem instantWithOffset?_eq : h.instantWithOffset? taipeiOffset =
    (Instant.ofTimestamp? (Text.trim h.published ++ taipeiOffset)).or (Instant.ofTimestamp? h.published) := by
  unfold instantWithOffset?
  dsimp only
  split
  next empty =>
    rw [String.isEmpty_iff] at empty
    have blank : Chars.trim h.published.toList = [] := by
      rw [← Text.toList_trim, empty]
      rfl
    have none : Instant.ofTimestamp? h.published = none := by
      rw [Instant.ofTimestamp?, blank]
      rfl
    rw [empty, none]
    decide +kernel
  next => rfl

/-- With `taipeiOffset` behind it, a date is a timestamp exactly if it is a local time, `Written`, of a date that
the calendar has. -/
theorem isSome_ofTimestamp?_append_iff (s : String) :
    (Instant.ofTimestamp? (Text.trim s ++ taipeiOffset)).isSome ↔
      ∃ f, Written (Text.trim s).toList f ∧ f.date.isValid := by
  rw [Option.isSome_iff_exists, Text.toList_trim]
  simp only [ofTimestamp?_eq_some_iff, trim_append_taipeiOffset]
  constructor
  · rintro ⟨t, f, read, named⟩
    obtain ⟨written, east⟩ := written_of_exact_append read
    exact ⟨f, written, (written.exists_toInstant_iff east).1 ⟨t, named⟩⟩
  · rintro ⟨f, written, valid⟩
    have moved := written.withOffset 28800
    obtain ⟨t, named⟩ := (moved.exists_toInstant_iff rfl).2 valid
    exact ⟨t, _, exact_eq_ok_iff.2 ⟨_, _, moved, zone_taipeiOffset, rfl⟩, named⟩

variable {h}

/-- `instantWithOffset?` keeps the instant of a complete timestamp. -/
theorem instantWithOffset?_of_complete {t : Instant} (complete : Instant.ofTimestamp? h.published = some t) :
    h.instantWithOffset? taipeiOffset = some t := by
  rw [instantWithOffset?_eq, ofTimestamp?_append_of_some complete, complete, Option.none_or]

/-- `instantWithOffset?` of a local time is the instant that it is with `taipeiOffset` behind it. -/
theorem instantWithOffset?_of_local {t : Instant}
    (moved : Instant.ofTimestamp? (Text.trim h.published ++ taipeiOffset) = some t) :
    h.instantWithOffset? taipeiOffset = some t := by
  rw [instantWithOffset?_eq, moved, Option.some_or]

/-- What a local time is with `taipeiOffset` behind it lies `EightHoursBefore` it. -/
theorem exists_written_eightHoursBefore {t : Instant}
    (moved : Instant.ofTimestamp? (Text.trim h.published ++ taipeiOffset) = some t) :
    ∃ f, Written (Text.trim h.published).toList f ∧ t.EightHoursBefore f := by
  obtain ⟨f, read, named⟩ := ofTimestamp?_eq_some_iff.1 moved
  rw [trim_append_taipeiOffset] at read
  obtain ⟨written, east⟩ := written_of_exact_append read
  rw [Text.toList_trim]
  exact ⟨f, written, written.eightHoursBefore east named⟩

/-- `instantWithOffset?` gives nothing exactly where there is neither a complete timestamp nor a local time. -/
theorem instantWithOffset?_eq_none_iff : h.instantWithOffset? taipeiOffset = none ↔
    Instant.ofTimestamp? h.published = none ∧
      Instant.ofTimestamp? (Text.trim h.published ++ taipeiOffset) = none := by
  rw [instantWithOffset?_eq, Option.or_eq_none_iff, and_comm]

variable (h)

/-- `instantWithOffset?` keeps the instant of a complete timestamp, turns a local time of the calendar into the
instant `EightHoursBefore` it, and gives nothing exactly where there is neither. -/
theorem instantWithOffset?_complete_or_eightHoursBefore :
    (∀ t, Instant.ofTimestamp? h.published = some t → h.instantWithOffset? taipeiOffset = some t) ∧
      (∀ t, Instant.ofTimestamp? (Text.trim h.published ++ taipeiOffset) = some t →
        h.instantWithOffset? taipeiOffset = some t ∧
          ∃ f, Written (Text.trim h.published).toList f ∧ t.EightHoursBefore f) ∧
      ((Instant.ofTimestamp? (Text.trim h.published ++ taipeiOffset)).isSome ↔
        ∃ f, Written (Text.trim h.published).toList f ∧ f.date.isValid) ∧
      (h.instantWithOffset? taipeiOffset = none ↔
        Instant.ofTimestamp? h.published = none ∧
          Instant.ofTimestamp? (Text.trim h.published ++ taipeiOffset) = none) :=
  ⟨fun _ ↦ instantWithOffset?_of_complete,
    fun _ moved ↦ ⟨instantWithOffset?_of_local moved, exists_written_eightHoursBefore moved⟩,
    isSome_ofTimestamp?_append_iff h.published, instantWithOffset?_eq_none_iff⟩

/-- A head with a local time in the first hours of a March. -/
def marchMorning : Head := { published := " 2024-03-01T07:30:60.5 " }

/-- The head of `marchMorning` with the same time in UTC. -/
def marchMorningUtc : Head := { published := "2024-03-01t07:30:60.5z" }

/-- Eight hours before `marchMorning` it was the leap day; `marchMorningUtc` stays what it is. -/
theorem instantWithOffset?_marchMorning :
    Instant.ofTimestamp? (Text.trim marchMorning.published ++ taipeiOffset) = some ⟨19782, 84659, 1500000000⟩ ∧
      Instant.toText ⟨19782, 84659, 1500000000⟩ = "2024-02-29T23:30:60.500Z".toList ∧
      Instant.ofTimestamp? marchMorningUtc.published = some ⟨19783, 27059, 1500000000⟩ ∧
      marchMorning.instantWithOffset? taipeiOffset = some ⟨19782, 84659, 1500000000⟩ ∧
      marchMorningUtc.instantWithOffset? taipeiOffset = some ⟨19783, 27059, 1500000000⟩ := by
  have moved : Instant.ofTimestamp? (Text.trim marchMorning.published ++ taipeiOffset) =
      some ⟨19782, 84659, 1500000000⟩ := by
    decide +kernel
  have complete : Instant.ofTimestamp? marchMorningUtc.published = some ⟨19783, 27059, 1500000000⟩ := by
    decide +kernel
  exact ⟨moved, by decide +kernel, complete,
    (marchMorning.instantWithOffset?_complete_or_eightHoursBefore.2.1 _ moved).1,
    marchMorningUtc.instantWithOffset?_complete_or_eightHoursBefore.1 _ complete⟩

end Head

end Gazette
