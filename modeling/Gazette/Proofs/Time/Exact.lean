import Gazette.Proofs.Time.Timestamps

/-!
# The exact form of timestamps

In the exact form stand date and time of day, the year in four digits and every other field in two, and behind
them the offset from UTC. `Written cs f` says that `cs` is date and time of day of the fields `f`, and `Zone cs
shift` that `cs` is an offset of `shift` seconds.

## Main results

- `exact_eq_ok_iff`: `Timestamp.exact` takes a `Written` text with a `Zone` behind it, and nothing else.
- `ofTimestamp?_eq_some_iff`: `Instant.ofTimestamp?` trims, reads by `exact` and converts by
  `Fields.toInstant`.
- `regular_of_ofTimestamp?`: what it gives is `Regular`.
-/

namespace Gazette.Time.Timestamp

open Number

/-! ## Digits -/

/-- `Digits width n cs`: the number `n` is written in `width` digits as `cs`. -/
structure Digits (width n : Nat) (cs : List Char) : Prop where
  /-- There is nothing but digits. -/
  all : ∀ c ∈ cs, c.isDigit
  /-- There are so many of them. -/
  length : cs.length = width
  /-- They stand for the number. -/
  value : valueIn 10 cs = n

/-- `Pair low high n cs`: a number `n` from `low` to `high` is written in two digits as `cs`. -/
structure Pair (low high n : Nat) (cs : List Char) : Prop extends Digits 2 n cs where
  /-- It is not too small. -/
  low_le : low ≤ n
  /-- It is not too large. -/
  le_high : n ≤ high

section Digits

variable {cs rest digits : List Char} {width n low high : Nat}

/-- What `number least most` reads is the number of the digits at the front, either all of them or `most` of
them. -/
theorem number_eq_ok {least most : Nat} (h : number least most cs = .ok (n, rest)) :
    ∃ digits, cs = digits ++ rest ∧ (∀ c ∈ digits, c.isDigit) ∧ least ≤ digits.length ∧ digits.length ≤ most ∧
      (digits.length = most ∨ ∀ c ∈ rest.head?, ¬ c.isDigit) ∧ valueIn 10 digits = n := by
  unfold number at h
  dsimp only at h
  split at h
  · cases h
  next enough =>
    cases h
    have front : (cs.take most).takeWhile Char.isDigit <+: cs.take most := List.takeWhile_prefix Char.isDigit
    have row := List.prefix_iff_eq_append.1 (front.trans (List.take_prefix most cs))
    have few : ((cs.take most).takeWhile Char.isDigit).length ≤ most :=
      Nat.le_trans front.length_le (List.length_take_le most cs)
    refine ⟨(cs.take most).takeWhile Char.isDigit, row.symm, fun c mem ↦ List.all_eq_true.1 List.all_takeWhile c mem,
      Nat.not_lt.1 enough, few, ?_, rfl⟩
    -- Where fewer digits stand than there may be, something else stops them.
    refine (Nat.eq_or_lt_of_le few).imp_right fun fewer c next ↦ ?_
    have left : (cs.take most).drop ((cs.take most).takeWhile Char.isDigit).length =
        (cs.take most).dropWhile Char.isDigit :=
      (congrArg (List.drop _) List.takeWhile_append_dropWhile).symm.trans List.drop_left
    have stop : ((cs.take most).dropWhile Char.isDigit).head? = some c := by
      rw [← left, List.drop_take, List.head?_take, if_neg (Nat.sub_ne_zero_of_lt fewer)]
      exact next
    have other := List.head?_dropWhile_not Char.isDigit (cs.take most)
    rw [stop] at other
    simpa using other

/-- What `number width width` reads is `Digits width n`. -/
theorem exists_digits_of_number (h : number width width cs = .ok (n, rest)) :
    ∃ digits, Digits width n digits ∧ cs = digits ++ rest := by
  obtain ⟨digits, rfl, all, enough, few, -, value⟩ := number_eq_ok h
  exact ⟨digits, ⟨all, Nat.le_antisymm few enough, value⟩, rfl⟩

/-- `number width width` reads what is `Digits width n`, whatever follows. -/
theorem Digits.number (h : Digits width n digits) : number width width (digits ++ rest) = .ok (n, rest) := by
  rw [number_append h.all (Nat.le_of_eq h.length.symm) (Nat.le_of_eq h.length) (.inl h.length), h.value]

/-- What `field 2 2 low high` reads is a `Pair low high n`. -/
theorem exists_pair_of_field (h : field 2 2 low high cs = .ok (n, rest)) :
    ∃ digits, Pair low high n digits ∧ cs = digits ++ rest := by
  obtain ⟨⟨m, left⟩, read, h⟩ := exists_of_bind h
  obtain ⟨digits, written, row⟩ := exists_digits_of_number read
  dsimp only at h
  split at h
  next range =>
    cases h
    exact ⟨digits, ⟨written, range.1, range.2⟩, row⟩
  next => cases h

/-- `field 2 2 low high` reads a `Pair low high n`, whatever follows. -/
theorem Pair.field (h : Pair low high n digits) : field 2 2 low high (digits ++ rest) = .ok (n, rest) := by
  unfold Timestamp.field
  rw [h.toDigits.number]
  exact if_pos ⟨h.low_le, h.le_high⟩

/-- `mark m` reads `m` and nothing else. -/
theorem mark_eq_ok {m : Char} (h : mark m cs = .ok ((), rest)) : cs = m :: rest := by
  cases cs with
  | nil => cases h
  | cons c cs =>
    by_cases same : c = m
    · rw [mark, if_pos same] at h
      cases h
      rw [same]
    · rw [mark, if_neg same] at h
      cases h

theorem mark_cons (m : Char) : mark m (m :: rest) = .ok ((), rest) := if_pos rfl

/-- What `separator` reads is a `T`, a `t` or a space. -/
theorem exists_of_separator (h : separator cs = .ok ((), rest)) :
    ∃ c, (c = 'T' ∨ c = 't' ∨ c = ' ') ∧ cs = c :: rest := by
  cases cs with
  | nil => cases h
  | cons c cs =>
    by_cases between : c = 'T' ∨ c = 't' ∨ c = ' '
    · rw [separator, if_pos between] at h
      cases h
      exact ⟨c, between, rfl⟩
    · rw [separator, if_neg between] at h
      cases h

end Digits

/-! ## Fractions -/

/-- `Fraction cs n`: a fraction of a second is written as `cs`, and its first nine digits are `n` nanoseconds. -/
inductive Fraction : List Char → Nat → Prop
  /-- There is none. -/
  | none : Fraction [] 0
  /-- It stands behind a point. -/
  | some {digits : List Char} (all : ∀ c ∈ digits, c.isDigit) (nonempty : digits ≠ []) :
    Fraction ('.' :: digits) (valueIn 10 ((digits ++ List.replicate 9 '0').take 9))

/-- `Ends rest`: the text `rest` begins neither with a point nor with a digit, so no fraction goes on in it. -/
def Ends (rest : List Char) : Prop := ∀ c ∈ rest.head?, ¬ c.isDigit ∧ c ≠ '.'

section Fractions

variable {cs rest digits : List Char} {n : Nat}

/-- By `valueIn`, `k` zeros behind digits multiply what they stand for by `10 ^ k`. -/
theorem valueIn_append_replicate (k : Nat) : valueIn 10 (digits ++ List.replicate k '0') =
    valueIn 10 digits * Nat.pow 10 k := by
  induction k with
  | zero => rw [List.replicate_zero, List.append_nil]; exact (Nat.mul_one _).symm
  | succ k ih =>
    have zero : valueIn 10 (digits ++ List.replicate k '0' ++ ['0']) =
        valueIn 10 (digits ++ List.replicate k '0') * 10 := List.foldl_append
    rw [List.replicate_succ', ← List.append_assoc, zero, ih, Nat.mul_assoc]
    rfl

/-- The first nine digits of a fraction by `valueIn`, with zeros for those that it lacks. -/
theorem valueIn_take_nine : valueIn 10 ((digits ++ List.replicate 9 '0').take 9) =
    valueIn 10 (digits.take 9) * Nat.pow 10 (9 - (digits.take 9).length) := by
  rw [← valueIn_append_replicate, List.take_append, List.take_replicate, List.length_take]
  congr 3
  omega

/-- What `optionalFraction` reads is a `Fraction`. -/
theorem exists_fraction (h : optionalFraction cs = .ok (n, rest)) :
    ∃ fraction, Fraction fraction n ∧ cs = fraction ++ rest := by
  unfold optionalFraction at h
  split at h
  next behind =>
    obtain ⟨⟨m, left⟩, read, h⟩ := exists_of_bind h
    obtain ⟨digits, rfl, all, enough, few, ends, rfl⟩ := number_eq_ok read
    cases h
    have count : (digits ++ left).length - left.length = digits.length := by
      rw [List.length_append, Nat.add_sub_cancel]
    have more : ∀ c ∈ digits ++ left.takeWhile Char.isDigit, c.isDigit := by
      intro c mem
      rcases List.mem_append.1 mem with mem | mem
      · exact all c mem
      · exact List.all_eq_true.1 List.all_takeWhile c mem
    -- There are more digits only behind the ninth.
    have first : (digits ++ left.takeWhile Char.isDigit).take 9 = digits := by
      rcases ends with full | other
      · rw [← full, List.take_left]
      · have none : left.takeWhile Char.isDigit = [] := by
          cases left with
          | nil => rfl
          | cons c left => exact List.takeWhile_cons_of_neg (other c rfl)
        rw [none, List.append_nil, List.take_of_length_le few]
    have whole := Fraction.some more (List.append_ne_nil_of_left_ne_nil (List.ne_nil_of_length_pos enough) _)
    rw [valueIn_take_nine, first] at whole
    refine ⟨_, by rw [count]; exact whole, ?_⟩
    rw [List.cons_append, List.append_assoc, List.takeWhile_append_dropWhile]
  next =>
    cases h
    exact ⟨[], .none, rfl⟩

/-- `optionalFraction` reads a `Fraction` if `Ends` holds of what follows. -/
theorem Fraction.optionalFraction {cs : List Char} (h : Fraction cs n) (ends : Ends rest) :
    optionalFraction (cs ++ rest) = .ok (n, rest) := by
  cases h with
  | none =>
    unfold Timestamp.optionalFraction
    rw [List.nil_append]
    split
    next point => exact absurd rfl (ends '.' rfl).2
    next => rfl
  | @some digits all nonempty =>
    have noDigit : rest.dropWhile Char.isDigit = rest := by
      cases rest with
      | nil => rfl
      | cons c rest => exact List.dropWhile_cons_of_neg (ends c rfl).1
    have front : ∀ c ∈ digits.take 9, c.isDigit := fun c mem ↦ all c (List.mem_of_mem_take mem)
    have back : ∀ c ∈ digits.drop 9, c.isDigit := fun c mem ↦ all c (List.mem_of_mem_drop mem)
    have read : number 1 9 (digits.take 9 ++ (digits.drop 9 ++ rest)) =
        .ok (valueIn 10 (digits.take 9), digits.drop 9 ++ rest) := by
      have some : 0 < digits.length := List.length_pos_of_ne_nil nonempty
      refine number_append front (by rw [List.length_take]; omega) (List.length_take_le 9 digits) ?_
      by_cases long : 9 ≤ digits.length
      · exact .inl (List.length_take_of_le long)
      · rw [List.drop_of_length_le (by omega), List.nil_append]
        exact .inr fun c mem ↦ (ends c mem).1
    have count : (digits.take 9 ++ (digits.drop 9 ++ rest)).length - (digits.drop 9 ++ rest).length =
        (digits.take 9).length := by
      rw [List.length_append, Nat.add_sub_cancel]
    have row : '.' :: digits ++ rest = '.' :: (digits.take 9 ++ (digits.drop 9 ++ rest)) := by
      rw [← List.append_assoc, List.take_append_drop, List.cons_append]
    rw [row, valueIn_take_nine]
    simp only [Timestamp.optionalFraction, fraction, read, bind, Except.bind, count, pure, Except.pure,
      List.dropWhile_append_of_pos back, noDigit]

/-- A `Fraction` is less than a second. -/
theorem Fraction.lt {cs : List Char} (h : Fraction cs n) : n < 1000000000 := by
  cases h with
  | none => decide
  | @some digits all nonempty =>
    have places : ((digits ++ List.replicate 9 '0').take 9).length = 9 := by
      rw [List.length_take, List.length_append, List.length_replicate]
      omega
    have zeros : ∀ c ∈ (digits ++ List.replicate 9 '0').take 9, c.isDigit := by
      intro c mem
      rcases List.mem_append.1 (List.mem_of_mem_take mem) with mem | mem
      · exact all c mem
      · rw [List.eq_of_mem_replicate mem]
        rfl
    have small := valueIn_lt zeros
    rw [places] at small
    exact small

end Fractions


/-! ## Offsets -/

/-- `Zone cs shift`: an offset of `shift` seconds from UTC is written as `cs`, by the letter `Z` or by sign, hours
and minutes. -/
inductive Zone : List Char → Int → Prop
  /-- There is none. -/
  | utc {c : Char} (mark : c = 'Z' ∨ c = 'z') : Zone [c] 0
  /-- It leads east. -/
  | east {hours minutes : List Char} {h m : Nat} (hours_pair : Pair 0 23 h hours) (minutes_pair : Pair 0 59 m minutes) :
    Zone ('+' :: (hours ++ ':' :: minutes)) (h * 3600 + m * 60)
  /-- It leads west. -/
  | west {c : Char} {hours minutes : List Char} {h m : Nat} (mark : c = '-' ∨ c = '\u2212')
    (hours_pair : Pair 0 23 h hours) (minutes_pair : Pair 0 59 m minutes) :
    Zone (c :: (hours ++ ':' :: minutes)) (-(h * 3600 + m * 60))

section Offsets

variable {cs rest digits zone : List Char} {n k : Nat} {limit : Char} {shift : Int}

/-- The test of `pair` on the first digit, `a < limit`, says that the two digits stand for less than `10 * k`. -/
theorem lt_iff_valueIn {a b : Char} (first : a.isDigit) (second : b.isDigit) (bound : limit.toNat = 48 + k) :
    a < limit ↔ valueIn 10 [a, b] < 10 * k := by
  have value : valueIn 10 [a, b] = (a.toNat - 48) * 10 + (b.toNat - 48) := by
    simp [valueIn, digitValue?_of_isDigit first, digitValue?_of_isDigit second]
  have low : 48 ≤ a.toNat ∧ 48 ≤ b.toNat ∧ b.toNat ≤ 57 := by
    simp only [Char.isDigit, Bool.and_eq_true, decide_eq_true_iff, ge_iff_le, UInt32.le_iff_toNat_le] at first second
    exact ⟨first.1, second.1, second.2⟩
  have order : a < limit ↔ a.toNat < limit.toNat := Iff.rfl
  rw [order, bound, value]
  omega

/-- What `pair limit` reads is `Digits 2 n` with `n < 10 * k`, where `limit` is the `k`th digit. -/
theorem exists_digits_of_pair (bound : limit.toNat = 48 + k) (h : pair limit cs = .ok (n, rest)) :
    ∃ digits, Digits 2 n digits ∧ n < 10 * k ∧ cs = digits ++ rest := by
  unfold pair at h
  split at h
  next a b left =>
    split at h
    next both =>
      obtain ⟨first, second⟩ := Bool.and_eq_true_iff.1 both
      split at h
      next small =>
        cases h
        exact ⟨[a, b], ⟨by simp [first, second], rfl, rfl⟩, (lt_iff_valueIn first second bound).1 small, rfl⟩
      next => cases h
    next => cases h
  next => cases h
  next => cases h

/-- `pair limit` reads `Digits 2 n` with `n < 10 * k`, whatever follows. -/
theorem Digits.pair (h : Digits 2 n digits) (bound : limit.toNat = 48 + k) (small : n < 10 * k) :
    pair limit (digits ++ rest) = .ok (n, rest) := by
  obtain ⟨all, length, rfl⟩ := h
  obtain ⟨a, b, rfl⟩ := List.length_eq_two.1 length
  obtain ⟨first, second⟩ : a.isDigit ∧ b.isDigit := by simpa using all
  simp [Timestamp.pair, first, second, (lt_iff_valueIn first second bound).2 small]

/-- What `offset` reads is a `Zone` if it is less than a day. -/
theorem exists_zone (h : offset (mark ':') cs = .ok (shift, rest)) (short : shift.natAbs ≤ 86340) :
    ∃ zone, Zone zone shift ∧ cs = zone ++ rest := by
  unfold offset at h
  split at h
  · cases h
  next c left =>
    split at h
    next utc =>
      cases h
      exact ⟨[c], .utc utc, rfl⟩
    next =>
      split at h
      next sign =>
        obtain ⟨⟨hours, behindHours⟩, hours_read, h⟩ := exists_of_bind h
        obtain ⟨⟨⟨⟩, behindColon⟩, colon, h⟩ := exists_of_bind h
        obtain ⟨⟨minutes, behindMinutes⟩, minutes_read, h⟩ := exists_of_bind h
        cases h
        obtain ⟨hs, hs_digits, -, rfl⟩ := exists_digits_of_pair (k := 10) rfl hours_read
        obtain rfl := mark_eq_ok colon
        obtain ⟨ms, ms_digits, few, rfl⟩ := exists_digits_of_pair (k := 6) rfl minutes_read
        have less : hours ≤ 23 := by
          split at short <;> omega
        refine ⟨c :: (hs ++ ':' :: ms), ?_, by simp⟩
        have hs_pair : Pair 0 23 hours hs := ⟨hs_digits, Nat.zero_le _, less⟩
        have ms_pair : Pair 0 59 minutes ms := ⟨ms_digits, Nat.zero_le _, Nat.le_of_lt_succ few⟩
        split
        next plus =>
          subst plus
          exact .east hs_pair ms_pair
        next minus => exact .west (sign.resolve_left minus) hs_pair ms_pair
      next => cases h

/-- `offset` reads a `Zone`, whatever follows. -/
theorem Zone.offset (h : Zone zone shift) : offset (mark ':') (zone ++ rest) = .ok (shift, rest) := by
  have read {hours minutes : List Char} {h m : Nat} (hours_pair : Pair 0 23 h hours)
      (minutes_pair : Pair 0 59 m minutes) :
      pair ':' (hours ++ (':' :: (minutes ++ rest))) = .ok (h, ':' :: (minutes ++ rest)) ∧
        pair '6' (minutes ++ rest) = .ok (m, rest) := by
    have below := hours_pair.le_high
    have below' := minutes_pair.le_high
    exact ⟨hours_pair.toDigits.pair (k := 10) rfl (by omega), minutes_pair.toDigits.pair (k := 6) rfl (by omega)⟩
  cases h with
  | utc mark => exact if_pos mark
  | east hours_pair minutes_pair =>
    obtain ⟨hours, minutes⟩ := read hours_pair minutes_pair
    simp [Timestamp.offset, hours, minutes, mark_cons, bind, Except.bind, pure, Except.pure]
  | west mark hours_pair minutes_pair =>
    obtain ⟨hours, minutes⟩ := read hours_pair minutes_pair
    rcases mark with rfl | rfl
    all_goals
      simp [Timestamp.offset, hours, minutes, mark_cons, bind, Except.bind, pure, Except.pure]

/-- A `Zone` is a whole number of minutes, and less than a day. -/
theorem Zone.bounds (h : Zone zone shift) : shift % 60 = 0 ∧ shift.natAbs ≤ 86340 := by
  cases h with
  | utc => decide
  | east hours_pair minutes_pair =>
    have hours := hours_pair.le_high
    have minutes := minutes_pair.le_high
    omega
  | west mark hours_pair minutes_pair =>
    have hours := hours_pair.le_high
    have minutes := minutes_pair.le_high
    omega

/-- A `Zone` that ends in a digit is not the letter `Z`, so it has six characters. -/
theorem Zone.length_eq_six {front : List Char} {c : Char} (h : Zone zone shift) (row : front ++ zone = cs ++ [c])
    (digit : c.isDigit) : zone.length = 6 := by
  cases h with
  | utc mark =>
    obtain ⟨-, same⟩ := List.append_inj' row rfl
    cases same
    rcases mark with rfl | rfl <;> cases digit
  | east hours_pair minutes_pair => simp [hours_pair.length, minutes_pair.length]
  | west mark hours_pair minutes_pair => simp [hours_pair.length, minutes_pair.length]

theorem Zone.ends (h : Zone zone shift) : Ends (zone ++ rest) := by
  cases h with
  | utc mark => rcases mark with rfl | rfl <;> rintro c ⟨⟩ <;> decide
  | east => rintro c ⟨⟩; decide
  | west mark => rcases mark with rfl | rfl <;> rintro c ⟨⟩ <;> decide

end Offsets

/-! ## Whole timestamps -/

/-- `Written cs f`: date and time of day of the fields `f` are written as `cs`, each with its digits. -/
inductive Written : List Char → Fields → Prop
  /-- The separator is a `T` or a space. -/
  | of {f : Fields} {year : Nat} {years months days hours minutes seconds fraction : List Char} {between : Char}
    (year_eq : f.date.year = year) (year_digits : Digits 4 year years) (month : Pair 1 12 f.date.month months)
    (day : Pair 1 31 f.date.day days) (separator : between = 'T' ∨ between = 't' ∨ between = ' ')
    (hour : Pair 0 23 f.hour hours) (minute : Pair 0 59 f.minute minutes) (second : Pair 0 60 f.second seconds)
    (nano : Fraction fraction f.nano) :
    Written (years ++ '-' :: (months ++ '-' :: (days ++ between ::
      (hours ++ ':' :: (minutes ++ ':' :: (seconds ++ fraction)))))) f

/-- `Written` says nothing about `Fields.offset`. -/
theorem Written.withOffset {cs : List Char} {f : Fields} (h : Written cs f) (offset : Int) :
    Written cs { f with offset } := by
  cases h with
  | of year_eq year_digits month day separator hour minute second nano =>
    exact .of year_eq year_digits month day separator hour minute second nano

/-- What is left of `exact` behind date and time of day: `zoned f cs` reads the offset and refuses what follows
it. -/
def zoned (f : Fields) (cs : List Char) : Except TimestampError Fields := do
  let (shift, cs) ← offset (mark ':') cs
  if 86340 < shift.natAbs then throw .outOfRange
  if !cs.isEmpty then throw .tooLong
  return ⟨f.date, f.hour, f.minute, f.second, f.nano, shift⟩

variable {cs front rest zone : List Char} {f : Fields}

/-- Behind a `Written` text, `exact` goes on with `zoned`. -/
theorem Written.exact_append (h : Written front f) (ends : Ends rest) : exact (front ++ rest) = zoned f rest := by
  obtain ⟨year_eq, year_digits, month, day, separator, hour, minute, second, nano⟩ := h
  have between (rest : List Char) : Timestamp.separator (_ :: rest) = .ok ((), rest) := if_pos separator
  unfold exact
  simp only [List.append_assoc, List.cons_append, bind, Except.bind, year_digits.number, mark_cons, month.field,
    day.field, between, hour.field, minute.field, second.field, nano.optionalFraction ends, ← year_eq]
  rfl

/-- `zoned` reads a `Zone` with nothing behind it. -/
theorem Zone.zoned (h : Zone zone f.offset) : zoned f zone = .ok f := by
  have read : Timestamp.offset (mark ':') (zone ++ []) = .ok (f.offset, []) := h.offset
  rw [List.append_nil] at read
  unfold Timestamp.zoned
  simp only [read, bind, Except.bind, List.isEmpty_nil, Bool.not_true, Bool.false_eq_true, if_false,
    if_neg (Nat.not_lt.2 h.bounds.2), pure, Except.pure]

/-- `zoned` refuses what stands behind a `Zone`. -/
theorem Zone.zoned_append {shift : Int} (h : Zone zone shift) (more : rest ≠ []) :
    Timestamp.zoned f (zone ++ rest) = .error .tooLong := by
  unfold Timestamp.zoned
  simp [h.offset, bind, Except.bind, Nat.not_lt.2 h.bounds.2, more, throw, throwThe, MonadExceptOf.throw]

/-- What `exact` reads is a `Written` text with a `Zone` behind it. -/
theorem exists_written_of_exact (h : exact cs = .ok f) :
    ∃ front zone, Written front f ∧ Zone zone f.offset ∧ cs = front ++ zone := by
  obtain ⟨⟨year, behindYear⟩, year_read, h⟩ := exists_of_bind h
  obtain ⟨⟨⟨⟩, behindMark⟩, year_mark, h⟩ := exists_of_bind h
  obtain ⟨⟨month, behindMonth⟩, month_read, h⟩ := exists_of_bind h
  obtain ⟨⟨⟨⟩, behindMark'⟩, month_mark, h⟩ := exists_of_bind h
  obtain ⟨⟨day, behindDay⟩, day_read, h⟩ := exists_of_bind h
  obtain ⟨⟨⟨⟩, behindSeparator⟩, separator_read, h⟩ := exists_of_bind h
  obtain ⟨⟨hour, behindHour⟩, hour_read, h⟩ := exists_of_bind h
  obtain ⟨⟨⟨⟩, behindColon⟩, hour_mark, h⟩ := exists_of_bind h
  obtain ⟨⟨minute, behindMinute⟩, minute_read, h⟩ := exists_of_bind h
  obtain ⟨⟨⟨⟩, behindColon'⟩, minute_mark, h⟩ := exists_of_bind h
  obtain ⟨⟨second, behindSecond⟩, second_read, h⟩ := exists_of_bind h
  obtain ⟨⟨nano, behindFraction⟩, fraction_read, h⟩ := exists_of_bind h
  obtain ⟨⟨shift, left⟩, zone_read, h⟩ := exists_of_bind h
  dsimp only at h
  split at h
  · cases h
  next short =>
  split at h
  · cases h
  next whole =>
  cases h
  obtain rfl : left = [] := by simpa using whole
  obtain ⟨years, year_digits, rfl⟩ := exists_digits_of_number year_read
  obtain rfl := mark_eq_ok year_mark
  obtain ⟨months, month_pair, rfl⟩ := exists_pair_of_field month_read
  obtain rfl := mark_eq_ok month_mark
  obtain ⟨days, day_pair, rfl⟩ := exists_pair_of_field day_read
  obtain ⟨between, separator, rfl⟩ := exists_of_separator separator_read
  obtain ⟨hours, hour_pair, rfl⟩ := exists_pair_of_field hour_read
  obtain rfl := mark_eq_ok hour_mark
  obtain ⟨minutes, minute_pair, rfl⟩ := exists_pair_of_field minute_read
  obtain rfl := mark_eq_ok minute_mark
  obtain ⟨seconds, second_pair, rfl⟩ := exists_pair_of_field second_read
  obtain ⟨fraction, fraction_written, rfl⟩ := exists_fraction fraction_read
  obtain ⟨zone, zone_written, rfl⟩ := exists_zone zone_read (Nat.not_lt.1 short)
  refine ⟨_, zone, .of (f := ⟨⟨year, month, day⟩, hour, minute, second, nano, shift⟩) rfl year_digits month_pair
    day_pair separator hour_pair minute_pair second_pair fraction_written, zone_written, ?_⟩
  simp

/-- `exact` reads the fields `f` exactly off a `Written` text with the `Zone` of `f.offset` behind it. -/
theorem exact_eq_ok_iff :
    exact cs = .ok f ↔ ∃ front zone, Written front f ∧ Zone zone f.offset ∧ cs = front ++ zone := by
  refine ⟨exists_written_of_exact, ?_⟩
  rintro ⟨front, zone, written, offset, rfl⟩
  have ends : Ends (zone ++ []) := offset.ends
  rw [List.append_nil] at ends
  rw [written.exact_append ends, offset.zoned]

/-- `Instant.ofTimestamp?` is `Fields.toInstant` of what `exact` reads off the trimmed text. -/
theorem ofTimestamp?_eq_some_iff {s : String} {t : Instant} : Instant.ofTimestamp? s = some t ↔
    ∃ f, exact (Chars.trim s.toList) = .ok f ∧ f.toInstant = .ok t := by
  unfold Instant.ofTimestamp?
  cases exact (Chars.trim s.toList) with
  | error e => simp [bind, Except.bind, Except.toOption]
  | ok f => cases named : f.toInstant <;> simp [bind, Except.bind, Except.toOption, named]

/-- The instant that `Instant.ofTimestamp?` gives is `Regular`. -/
theorem regular_of_ofTimestamp? {s : String} {t : Instant} (h : Instant.ofTimestamp? s = some t) : Regular t := by
  obtain ⟨f, read, named⟩ := ofTimestamp?_eq_some_iff.1 h
  obtain ⟨front, zone, written, offset, -⟩ := exists_written_of_exact read
  cases written with
  | of year_eq year_digits month day separator hour minute second nano =>
    exact f.regular_of_toInstant nano.lt offset.bounds.1 named

end Gazette.Time.Timestamp
