/-!
# Indexes

An `Index` gives the characters of a charset of several bytes by their place. A place may have none.
-/

namespace Gazette.Charset

/-- Characters by their place. U+FFFD stands where a place has none. -/
abbrev Index := Array Char

namespace Index

/-- An index with a row of characters, the first of which has the given place. Rows are added in the order
of their places. -/
def addRow (index : Index) (place : Nat) (row : String) : Index :=
  row.toList.foldl Array.push (index ++ Array.replicate (place - index.size) '\ufffd')

/-- The index of some rows, by `addRow`. -/
def ofRows (rows : List (Nat × String)) : Index :=
  rows.foldl (fun index (place, row) ↦ index.addRow place row) #[]

/-- The character of a place. -/
def get? (index : Index) (place : Nat) : Option Char :=
  match index[place]? with
  | some c => if c = '\ufffd' then none else some c
  | none => none

end Index

end Gazette.Charset
