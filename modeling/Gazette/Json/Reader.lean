import Gazette.Json.Token

/-!
# Reading JSON

`Json.parse` reads a whole text, and `Json.value` what stands in front of one. Lists and objects may lie in each
other 127 deep (`depthLimit`). Of two faults in a text the first one is reported.
-/

namespace Gazette.Json

/-- The items of a list, each by `item`. The fuel bounds their number. -/
def itemsWith {α : Type} (item : Reads α) : Nat → Bool → Reads (List α)
  | 0, _, _ => .error (.before .endInList [])
  | fuel + 1, first, cs => do
    match ← nextItem first cs with
    | (false, cs) => return ([], cs)
    | (true, cs) =>
      let (x, cs) ← item cs
      let (xs, cs) ← itemsWith item fuel false cs
      return (x :: xs, cs)

/-- A list behind its opening bracket, its items by `item`. -/
def listRest {α : Type} (item : Reads α) : Reads (List α) := fun cs ↦ do
  let (xs, cs) ← itemsWith item (cs.length + 1) true cs
  let ((), cs) ← closeList cs
  return (xs, cs)

/-- The members of an object, their values by `value`. The fuel bounds their number. -/
def membersWith {α : Type} (value : Reads α) : Nat → Bool → Reads (List (String × α))
  | 0, _, _ => .error (.before .endInObject [])
  | fuel + 1, first, cs => do
    match ← nextKey first cs with
    | (none, cs) => return ([], cs)
    | (some key, cs) =>
      let ((), cs) ← colon cs
      let (x, cs) ← value cs
      let (xs, cs) ← membersWith value fuel false cs
      return ((key, x) :: xs, cs)

/-- An object behind its opening brace, its values by `value`. -/
def objectRest {α : Type} (value : Reads α) : Reads (List (String × α)) := fun cs ↦ do
  let (xs, cs) ← membersWith value (cs.length + 1) true cs
  let ((), cs) ← closeObject cs
  return (xs, cs)

/-- A word, a number (`numeral`) or a string (`stringRest`) behind its first character, or the fault of none. -/
def scalar (c : Char) (rest : List Char) : Except Fault (Json × List Char) :=
  if c = 'n' then do return (.null, (← word "ull".toList rest).2)
  else if c = 't' then do return (.bool true, (← word "rue".toList rest).2)
  else if c = 'f' then do return (.bool false, (← word "alse".toList rest).2)
  else if c = '-' then do
    let (n, rest) ← numeral true rest
    return (.number n, rest)
  else if c.isDigit then do
    let (n, rest) ← numeral false (c :: rest)
    return (.number n, rest)
  else if c = '"' then do
    let (s, rest) ← stringRest rest
    return (.string s, rest)
  else .error (.atFirst .valueExpected (c :: rest))

/-- A value in which lists and objects lie at most `depth` deep in each other. -/
def value : (depth : Nat) → Reads Json
  | 0 => fun cs ↦
    match skipSpace cs with
    | [] => .error (.before .endInValue [])
    | c :: rest =>
      if c = '[' ∨ c = '\x7b' then .error (.atFirst .tooDeep (c :: rest)) else scalar c rest
  | depth + 1 => fun cs ↦
    match skipSpace cs with
    | [] => .error (.before .endInValue [])
    | c :: rest =>
      if c = '[' then do
        let (items, rest) ← listRest (value depth) rest
        return (.array items, rest)
      else if c = '\x7b' then do
        let (members, rest) ← objectRest (value depth) rest
        return (ofMembers members, rest)
      else scalar c rest

/-- How deep lists and objects may lie in each other. -/
def depthLimit : Nat := 127

/-- What `read` finds in a whole text, with nothing but white space behind it. -/
def whole {α : Type} (read : Reads α) (cs : List Char) : Except Fault α := do
  let (x, rest) ← read cs
  match skipSpace rest with
  | [] => return x
  | rest => throw (.atFirst .trailingCharacters rest)

/-- The value of a text: `value depthLimit` of the `whole`. -/
def parseChars (cs : List Char) : Except Fault Json := whole (value depthLimit) cs

/-- The value of a text, by `parseChars`. -/
def parse (s : String) : Except Fault Json := parseChars s.toList

end Gazette.Json
