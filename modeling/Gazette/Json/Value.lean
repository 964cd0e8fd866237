import Gazette.Number.Shortest

/-!
# JSON values

The values of a JSON text: `Json`. Members of an object stand in the order of their keys, and each key stands
once: `Json.ofMembers`.
-/

namespace Gazette

namespace Json

/-- A number of a JSON text. -/
inductive Numeral
  /-- A whole number, written without fraction and exponent. -/
  | whole (n : Int)
  /-- A number rounded to double width. -/
  | rounded (negative : Bool) (size : Number.Binary64)
deriving DecidableEq, Repr

end Json

/-- A value of a JSON text. -/
inductive Json
  /-- The value `null`. -/
  | null
  /-- A truth value. -/
  | bool (b : Bool)
  /-- A number. -/
  | number (n : Json.Numeral)
  /-- A text. -/
  | string (s : String)
  /-- A list of values. -/
  | array (items : List Json)
  /-- Values under keys. -/
  | object (members : List (String × Json))
deriving Inhabited

namespace Json

mutual

/-- Whether two values are equal. It is what `DecidableEq` computes with. -/
def same : Json → Json → Bool
  | null, null => true
  | bool b, bool b' => b == b'
  | number n, number n' => decide (n = n')
  | string s, string s' => s == s'
  | array items, array items' => sameItems items items'
  | object members, object members' => sameMembers members members'
  | _, _ => false

/-- Whether two lists of values are equal. -/
def sameItems : List Json → List Json → Bool
  | [], [] => true
  | v :: items, v' :: items' => same v v' && sameItems items items'
  | _, _ => false

/-- Whether the same values stand under the same keys, in the same order. -/
def sameMembers : List (String × Json) → List (String × Json) → Bool
  | [], [] => true
  | (key, v) :: members, (key', v') :: members' => key == key' && same v v' && sameMembers members members'
  | _, _ => false

end

mutual

/-- `same` decides equality. -/
theorem same_iff : (v v' : Json) → (same v v' = true ↔ v = v')
  | .array items, v' => by cases v' <;> simp [same, sameItems_iff items]
  | .object members, v' => by cases v' <;> simp [same, sameMembers_iff members]
  | .null, v' | .bool _, v' | .number _, v' | .string _, v' => by cases v' <;> simp [same]

theorem sameItems_iff : (items items' : List Json) → (sameItems items items' = true ↔ items = items')
  | [], items' => by cases items' <;> simp [sameItems]
  | v :: items, items' => by cases items' <;> simp [sameItems, same_iff v, sameItems_iff items]

theorem sameMembers_iff : (members members' : List (String × Json)) →
    (sameMembers members members' = true ↔ members = members')
  | [], members' => by cases members' <;> simp [sameMembers]
  | (key, v) :: members, members' => by
    cases members' <;> simp [sameMembers, same_iff v, sameMembers_iff members, and_assoc, Prod.ext_iff]

end

instance : DecidableEq Json := fun v v' ↦ decidable_of_iff _ (same_iff v v')

/-- A natural number as a value. -/
def ofNat (n : Nat) : Json := .number (.whole n)

/-- A list of texts as a value. -/
def strings (items : List String) : Json := .array (items.map .string)

/-- Members with `value` under `key`, at the place of this key; it takes the place of a member of that key. -/
def insert (key : String) (value : Json) : List (String × Json) → List (String × Json)
  | [] => [(key, value)]
  | (k, v) :: rest =>
    if key < k then (key, value) :: (k, v) :: rest
    else if key = k then (key, value) :: rest
    else (k, v) :: insert key value rest

/-- An object of members in the order of a text, by `insert`. Of members with one key the last one stays. -/
def ofMembers (members : List (String × Json)) : Json :=
  .object (members.foldl (fun sorted (k, v) ↦ insert k v sorted) [])

namespace Numeral

/-- Digits in front of a point and behind it. Where one side has none, it has a zero. -/
def positional (digits : List Char) (point : Nat) : List Char :=
  let whole := digits.take point ++ List.replicate (point - digits.length) '0'
  let fraction := digits.drop point
  (if whole.isEmpty then ['0'] else whole) ++ '.' :: (if fraction.isEmpty then ['0'] else fraction)

/-- One digit in front of the point, the others behind it, and a signed exponent. -/
def scientific (digits : List Char) (exponent : Int) : List Char :=
  (match digits with
    | [] => []
    | [d] => [d]
    | d :: more => d :: '.' :: more) ++
  'e' :: (if exponent < 0 then '-' else '+') :: Number.decimal exponent.natAbs

/-- A number that is not negative in its fewest digits: with a point from five places below it to
sixteen above, else with an exponent. -/
def sizeText (x : Number.Binary64) : List Char :=
  if x.mantissa = 0 then ['0', '.', '0']
  else
    let d := x.shortest
    if 0 < d.point ∧ d.point ≤ 16 then positional d.digits d.point.toNat
    else if -5 < d.point ∧ d.point ≤ 0 then
      '0' :: '.' :: List.replicate (-d.point).toNat '0' ++ d.digits
    else scientific d.digits (d.point - 1)

/-- A whole number in decimal digits. -/
def wholeText (n : Int) : List Char :=
  (if n < 0 then ['-'] else []) ++ Number.decimal n.natAbs

/-- A number in decimal digits. -/
def toText : Numeral → List Char
  | whole n => wholeText n
  | rounded negative size => (if negative then ['-'] else []) ++ sizeText size

end Numeral

end Json

end Gazette
