import Gazette.Json.Reader
import Gazette.Json.Skip
import Gazette.Text.Quoted

/-!
# Reading records

A record is read from an object, its fields under their keys in any order, or from a list, its fields in their
order: `Form.read`. Values are read as the fields want them (`Field`), so that of two faults the one that comes
first in the text is reported, be it one of shape or one of type. Members under other keys are skipped by
`skipValue`.
-/

namespace Gazette.Json

/-- What a value is, for messages. -/
def kindText : Json → String
  | .null => "null"
  | .bool true => "boolean `true`"
  | .bool false => "boolean `false`"
  | .number (.whole n) => "integer `" ++ String.ofList (Numeral.wholeText n) ++ "`"
  | .number n => "floating point `" ++ String.ofList n.toText ++ "`"
  | .string s => "string " ++ Text.quoted s
  | .array _ => "sequence"
  | .object _ => "map"

/-- The fault of a value that is not what is expected. A list or object is not looked into. -/
def refuse {α : Type} (expected : String) : Reads α
  | [] => .error (.before .endInValue [])
  | c :: rest =>
    if c = '[' then .error (.before (.wrongType (kindText (.array [])) expected) (c :: rest))
    else if c = '\x7b' then .error (.before (.wrongType (kindText (.object [])) expected) (c :: rest))
    else do
      let (v, rest) ← scalar c rest
      throw (.before (.wrongType (kindText v) expected) rest)

/-! ## Values of a wanted type -/

/-- A string that holds what `decode` takes. -/
def stringAs {α : Type} (expected : String) (decode : String → Except Cause α) : Reads α := fun cs ↦
  match skipSpace cs with
  | '"' :: rest => do
    let (s, rest) ← stringRest rest
    match decode s with
    | .ok x => return (x, rest)
    | .error cause => throw (.before cause rest)
  | cs => refuse expected cs

/-- A string. -/
def text : Reads String := stringAs "a string" .ok

/-- `null` or a value. -/
def optional {α : Type} (read : Reads α) : Reads (Option α) := fun cs ↦
  match skipSpace cs with
  | 'n' :: rest => do
    let ((), rest) ← word "ull".toList rest
    return (none, rest)
  | cs => do
    let (x, rest) ← read cs
    return (some x, rest)

/-- A list of values. -/
def list {α : Type} (item : Reads α) : Reads (List α) := fun cs ↦
  match skipSpace cs with
  | '[' :: rest => listRest item rest
  | cs => refuse "a sequence" cs

/-- The members of an object. -/
def members {α : Type} (value : Reads α) : Reads (List (String × α)) := fun cs ↦
  match skipSpace cs with
  | '\x7b' :: rest => objectRest value rest
  | cs => refuse "a map" cs

/-- A truth value. -/
def truth : Reads Bool := fun cs ↦
  match skipSpace cs with
  | 't' :: rest => do return (true, (← word "rue".toList rest).2)
  | 'f' :: rest => do return (false, (← word "alse".toList rest).2)
  | cs => refuse "a boolean" cs

/-- A natural number of 64 bits. -/
def natural (expected : String) : Reads Nat := fun cs ↦ do
  let (n, rest) ←
    match skipSpace cs with
    | '-' :: rest => numeral true rest
    | c :: rest => if c.isDigit then numeral false (c :: rest) else refuse expected (c :: rest)
    | [] => refuse expected []
  match n with
  | .whole (.ofNat n) => return (n, rest)
  | .whole n => throw (.before (.wrongValue (kindText (.number (.whole n))) expected) rest)
  | n => throw (.before (.wrongType (kindText (.number n)) expected) rest)

/-! ## Records -/

/-- A field of a record that is read into a draft. -/
structure Field (Draft : Type) where
  /-- The key. -/
  key : String
  /-- Whether a draft has the field. -/
  isSet : Draft → Bool
  /-- The value, put into a draft. -/
  read : Draft → Reads Draft
  /-- Whether a list may end before the field. -/
  mayLack : Bool

/-- A field whose value a draft keeps as an option: `read` by `get` and `set`. -/
def Field.of {Draft α : Type} (key : String) (read : Reads α) (get : Draft → Option α)
    (set : Draft → α → Draft) (mayLack : Bool) : Field Draft where
  key := key
  isSet draft := (get draft).isSome
  read draft cs := do
    let (x, rest) ← read cs
    return (set draft x, rest)
  mayLack := mayLack

/-- The form of a record. -/
structure Form (Draft Result : Type) where
  /-- What is expected, for messages. -/
  expected : String
  /-- The fields in their order. -/
  fields : List (Field Draft)
  /-- The draft without fields. -/
  start : Draft
  /-- The record of a draft. -/
  finish : Draft → Except Cause Result

namespace Form

variable {Draft Result : Type} (form : Form Draft Result)

/-- What is expected of a list, for messages. -/
def expectedCount : String :=
  form.expected ++ " with " ++ Number.decimalText form.fields.length ++ " elements"

/-- Fields in their order, `count` of them read before, as the items of a list. -/
def inOrder (count : Nat) (first : Bool) : List (Field Draft) → Draft → Reads Draft
  | [], draft, cs => .ok (draft, cs)
  | field :: fields, draft, cs => do
    match ← nextItem first cs with
    | (true, cs) =>
      let (draft, cs) ← field.read draft cs
      inOrder (count + 1) false fields draft cs
    | (false, cs) =>
      if field.mayLack then inOrder (count + 1) first fields draft cs
      else throw (.before (.wrongLength count form.expectedCount) (cs.drop 1))

/-- Fields under their keys. The fuel bounds the number of members. A key that was there before is a
fault behind it, or behind the end of the object. -/
def byKey : Nat → Bool → Draft → Reads Draft
  | 0, _, _, _ => .error (.before .endInObject [])
  | fuel + 1, first, draft, cs => do
    match ← nextKey first cs with
    | (none, cs) => return (draft, cs)
    | (some key, cs) =>
      match form.fields.find? (·.key == key) with
      | some field =>
        if field.isSet draft then
          throw (.before (.duplicate key)
            (match skipSpace cs with
              | '\x7d' :: rest => rest
              | rest => rest))
        else
          let ((), cs) ← colon cs
          let (draft, cs) ← field.read draft cs
          byKey fuel false draft cs
      | none =>
        let ((), cs) ← colon cs
        let ((), cs) ← skipValue cs
        byKey fuel false draft cs

/-- A record: `byKey` in an object, `inOrder` in a list, and `finish` of the draft. -/
def read : Reads Result := fun cs ↦
  match skipSpace cs with
  | '[' :: rest => do
    let (draft, rest) ← form.inOrder 0 true form.fields form.start rest
    match form.finish draft with
    | .ok x =>
      let ((), rest) ← closeList rest
      return (x, rest)
    | .error cause => throw (.before cause rest)
  | '\x7b' :: rest => do
    let (draft, rest) ← form.byKey (rest.length + 1) true form.start rest
    let ((), rest) ← closeObject rest
    match form.finish draft with
    | .ok x => return (x, rest)
    | .error cause => throw (.before cause rest)
  | cs => refuse form.expected cs

/-- The record of a text, by `read`. -/
def parse (s : String) : Except Fault Result := whole form.read s.toList

end Form

end Gazette.Json
