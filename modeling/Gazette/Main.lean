import Gazette.CommandLine.Run

/-!
# The program

`main` reads the files that the arguments name, runs (`Report.ofWords`), and prints the report. No request
leaves this program: a page that is not in a file counts as out of reach.
-/

namespace Gazette

/-- What the system says of a file that it cannot read. -/
def FileError.ofSystem (error : IO.Error) : FileError :=
  match error with
  | .noFileOrDirectory _ _ _ => .notFound
  | .permissionDenied _ _ _ => .denied
  | .inappropriateType _ code details =>
    if code = 21 then .isDirectory else if code = 20 then .notDirectory else .other details
  | error => .other (toString error)

/-- The content of a file. -/
def contentOf (path : String) : IO (Except FileError (List UInt8)) := do
  try
    return .ok (← IO.FS.readBinFile path).toList
  catch error => return .error (.ofSystem error)

/-- What is around this program, as far as some arguments need it. -/
def surroundings (a : Arguments) : IO Surroundings := do
  let files ← a.paths.mapM fun path ↦ return (path, ← contentOf path)
  return ⟨fun path ↦ (files.lookup path).getD (.error .notFound), fun _ ↦ .lost⟩

end Gazette

/-- Runs the program on the words of a command line. -/
def main (words : List String) : IO UInt32 := do
  let a := (Gazette.Arguments.ofWords words).toOption.getD {}
  let report := Gazette.Report.ofWords words (← Gazette.surroundings a)
  (← IO.getStdout).putStr report.out
  (← IO.getStderr).putStr report.err
  return UInt32.ofNat report.code
