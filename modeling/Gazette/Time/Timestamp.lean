import Gazette.Chars.Blank
import Gazette.Time.Instant

/-!
# Reading timestamps

Timestamps such as `2023-08-23T12:01:00+08:00`, after RFC 3339. The reader `Instant.ofTimestamp?` takes
exactly that form. The reader `Instant.ofLooseTimestamp` also takes signed years, fields of fewer
digits, white space between fields and `UTC` for the offset; it is the one that says what is wrong.
-/

namespace Gazette.Time

/-- What is wrong with the text of a timestamp. -/
inductive TimestampError
  /-- A field is outside its range, or the calendar has no such day. -/
  | outOfRange
  /-- The offset leads out of the range of dates. -/
  | impossible
  /-- Something else stands where a field is due. -/
  | invalid
  /-- The text ends too early. -/
  | tooShort
  /-- Something follows the timestamp. -/
  | tooLong
deriving DecidableEq, Repr

def TimestampError.message : TimestampError → String
  | outOfRange => "input is out of range"
  | impossible => "no possible date and time matching input"
  | invalid => "input contains invalid characters"
  | tooShort => "premature end of input"
  | tooLong => "trailing input"

namespace Timestamp

/-- A step of reading: its value and the characters that remain. -/
abbrev Reads (α : Type) := List Char → Except TimestampError (α × List Char)

/-- From `least` to `most` digits, as many as there are. -/
def number (least most : Nat) : Reads Nat := fun cs ↦
  let digits := (cs.take most).takeWhile Char.isDigit
  if digits.length < least then
    .error (if cs.length = digits.length then .tooShort else .invalid)
  else .ok (Number.valueIn 10 digits, cs.drop digits.length)

/-- A `number` from `low` to `high`. -/
def field (least most low high : Nat) : Reads Nat := fun cs ↦ do
  let (n, rest) ← number least most cs
  if low ≤ n ∧ n ≤ high then return (n, rest) else throw .outOfRange

/-- One given character. -/
def mark (m : Char) : Reads Unit
  | [] => .error .tooShort
  | c :: rest => if c = m then .ok ((), rest) else .error .invalid

/-- The `T` or the space between date and time. -/
def separator : Reads Unit
  | [] => .error .tooShort
  | c :: rest => if c = 'T' ∨ c = 't' ∨ c = ' ' then .ok ((), rest) else .error .invalid

/-- The digits of a fraction as nanoseconds. Digits after the ninth are skipped. -/
def fraction : Reads Nat := fun cs ↦ do
  let (n, rest) ← number 1 9 cs
  let count := cs.length - rest.length
  return (n * Nat.pow 10 (9 - count), rest.dropWhile Char.isDigit)

/-- A `fraction` after a point, where a point stands. -/
def optionalFraction : Reads Nat
  | '.' :: rest => fraction rest
  | cs => .ok (0, cs)

/-- Two digits, the first below `limit`. A first digit from `limit` on is out of range. -/
def pair (limit : Char) : Reads Nat
  | a :: b :: rest =>
    if a.isDigit && b.isDigit then
      if a < limit then .ok (Number.valueIn 10 [a, b], rest) else .error .outOfRange
    else .error .invalid
  | [a] => .error (if a.toNat < 0x80 then .tooShort else .invalid)
  | [] => .error .tooShort

/-- An offset from UTC in seconds: `Z`, or a sign, hours, what `between` takes, and minutes, each a `pair`. -/
def offset (between : Reads Unit) : Reads Int
  | [] => .error .tooShort
  | c :: rest =>
    if c = 'Z' ∨ c = 'z' then .ok (0, rest)
    else if c = '+' ∨ c = '-' ∨ c = '\u2212' then do
      let (hours, rest) ← pair ':' rest
      let ((), rest) ← between rest
      let (minutes, rest) ← pair '6' rest
      let seconds : Int := hours * 3600 + minutes * 60
      return (if c = '+' then seconds else -seconds, rest)
    else .error .invalid

/-- The fields of a timestamp as they are written. -/
structure Fields where
  /-- The date. -/
  date : Date
  /-- The hour, below 24. -/
  hour : Nat
  /-- The minute, below 60. -/
  minute : Nat
  /-- The second, up to 60. -/
  second : Nat
  /-- The fraction in nanoseconds. -/
  nano : Nat
  /-- The offset from UTC in seconds. -/
  offset : Int
deriving DecidableEq, Repr

/-- The years that dates may have. -/
def yearInRange (year : Int) : Bool := -262143 ≤ year && year ≤ 262142

/-- The instant that the fields name, `Date.isValid` and in the years of `yearInRange`. -/
def Fields.toInstant (f : Fields) : Except TimestampError Instant := do
  if !(yearInRange f.date.year && f.date.isValid) then throw .outOfRange
  if !(-86400 < f.offset && f.offset < 86400) then throw .outOfRange
  let written : Int := f.hour * 3600 + f.minute * 60 + min f.second 59
  let shifted := written - f.offset
  let day := f.date.toDays + shifted.fdiv 86400
  if !yearInRange (Date.ofDays day).year then throw .impossible
  return ⟨day, (shifted.fmod 86400).toNat, f.nano + if f.second = 60 then 1000000000 else 0⟩

/-- The fields of a timestamp in the exact form. -/
def exact (cs : List Char) : Except TimestampError Fields := do
  let (year, cs) ← number 4 4 cs
  let ((), cs) ← mark '-' cs
  let (month, cs) ← field 2 2 1 12 cs
  let ((), cs) ← mark '-' cs
  let (day, cs) ← field 2 2 1 31 cs
  let ((), cs) ← separator cs
  let (hour, cs) ← field 2 2 0 23 cs
  let ((), cs) ← mark ':' cs
  let (minute, cs) ← field 2 2 0 59 cs
  let ((), cs) ← mark ':' cs
  let (second, cs) ← field 2 2 0 60 cs
  let (nano, cs) ← optionalFraction cs
  let (shift, cs) ← offset (mark ':') cs
  if 86340 < shift.natAbs then throw .outOfRange
  if !cs.isEmpty then throw .tooLong
  return ⟨⟨year, month, day⟩, hour, minute, second, nano, shift⟩

/-- A year of up to four digits, or of any number of digits after a sign. -/
def looseYear (cs : List Char) : Except TimestampError (Int × List Char) :=
  let bounded (sign : Int) (cs : List Char) : Except TimestampError (Int × List Char) := do
    let (n, rest) ← number 1 cs.length cs
    let year := sign * n
    if -2147483648 ≤ year ∧ year ≤ 2147483647 then return (year, rest) else throw .outOfRange
  match cs with
  | '-' :: rest => if rest.isEmpty then .error .tooShort else bounded (-1) rest
  | '+' :: rest => if rest.isEmpty then .error .tooShort else bounded 1 rest
  | cs => (number 1 4 cs).map fun (n, rest) ↦ ((n : Int), rest)

/-- White space in front is skipped before reading. -/
def spaced {α : Type} (read : Reads α) : Reads α := fun cs ↦ read (cs.dropWhile Chars.isBlank)

/-- Colons and white space between the hours and the minutes of an offset. -/
def looseBetween : Reads Unit := fun cs ↦
  .ok ((), cs.dropWhile fun c ↦ c = ':' || Chars.isBlank c)

/-- An offset, or `UTC` in any case. -/
def looseOffset (cs : List Char) : Except TimestampError (Int × List Char) :=
  if (cs.take 3).map Char.toUpper = ['U', 'T', 'C'] then .ok (0, cs.drop 3)
  else offset looseBetween cs

/-- The fields of a timestamp in the loose form. -/
def loose (cs : List Char) : Except TimestampError Fields := do
  let (year, cs) ← spaced looseYear cs
  let ((), cs) ← spaced (mark '-') cs
  let (month, cs) ← spaced (field 1 2 1 12) cs
  let ((), cs) ← spaced (mark '-') cs
  let (day, cs) ← spaced (field 1 2 1 31) cs
  let ((), cs) ← separator cs
  let (hour, cs) ← spaced (field 1 2 0 23) cs
  let ((), cs) ← spaced (mark ':') cs
  let (minute, cs) ← spaced (field 1 2 0 59) cs
  let ((), cs) ← spaced (mark ':') cs
  let (second, cs) ← spaced (field 1 2 0 60) cs
  let (nano, cs) ← optionalFraction cs
  let (shift, cs) ← spaced looseOffset cs
  if !(cs.dropWhile Chars.isBlank).isEmpty then throw .tooLong
  return ⟨⟨year, month, day⟩, hour, minute, second, nano, shift⟩

end Timestamp

/-- The instant of a timestamp in the `exact` form, white space at its ends trimmed. -/
def Instant.ofTimestamp? (s : String) : Option Instant :=
  (Timestamp.exact (Chars.trim s.toList) >>= Timestamp.Fields.toInstant).toOption

/-- The instant of a timestamp in the `loose` form. -/
def Instant.ofLooseTimestamp (s : String) : Except TimestampError Instant :=
  Timestamp.loose s.toList >>= Timestamp.Fields.toInstant

end Gazette.Time
