import Gazette.Failure.Basic
import Gazette.Table
import Gazette.Text

/-!
# Issues

`Issues` are the failures that one pass over a page left beside its record, each under what it is about: an
address, or the name of a part. A later failure under the same key takes the place of an earlier one
(`Issues.extend`).
-/

namespace Gazette

/-- Failures under keys. -/
abbrev Issues := Table Failure

namespace Issues

/-- The issues `a` with those of `b`, which win. -/
def extend (a b : Issues) : Issues := a.insertAll b.entries

/-- Whether some issue is of a kind. -/
def hasKind (issues : Issues) (kind : FailureKind) : Bool := issues.values.any (·.kind == kind)

/-- A key in a column of ten characters. -/
def column (key : String) : String :=
  String.ofList (key.toList ++ List.replicate (10 - key.toList.length) ' ')

/-- The issues, one to a line, each behind the `column` of its key. -/
def message (issues : Issues) : String :=
  "multiple errors:\n" ++
    Text.concat (issues.entries.map fun (key, failure) ↦
      column key ++ ": " ++ failure.message ++ "\n")

end Issues

end Gazette
