import Gazette.Chars.Cut

/-!
# Tables in text

Large tables are kept as lines of rows with spaces between them, code points in hexadecimal digits.
-/

namespace Gazette.Unicode

/-- The number that lower-case hexadecimal digits write. -/
def hexNat (cs : List Char) : Nat :=
  cs.foldl (fun n c ↦ n * 16 + if c.isDigit then c.toNat - '0'.toNat else c.toNat - 'a'.toNat + 10) 0

/-- The rows of a table. -/
def rowsOf (lines : List String) : List (List Char) :=
  lines.flatMap fun line ↦ Chars.splitAtChar ' ' line.toList

end Gazette.Unicode
