import Gazette.Text
import Gazette.Unicode.Word

/-!
# Sections

The section of a site, read off the text of an address: `topicOf?` for the BBC, `firstPieceOf?` for the New York
Times.
-/

namespace Gazette.Section

/-- What stands between `zhongwen/trad/` and a dash with seven to ten digits at the end, where the former
stands at the front. -/
def topic? (cs : List Char) : Option (List Char) := do
  let rest ← Chars.after? "zhongwen/trad/".toList cs
  let digits := (rest.reverse.takeWhile Char.isDigit).length
  let topic ← Chars.before? ['-'] (rest.take (rest.length - digits))
  if 7 ≤ digits && digits ≤ 10 && !topic.isEmpty && !topic.contains '\n' then some topic else none

/-- The first `topic?` in an address, in front of the number of an article. -/
def topicOf? (link : String) : Option String :=
  (Chars.firstSome? topic? link.toList).map String.ofList

/-- One character of a line. -/
def anyChar? : List Char → Option (List Char)
  | [] => none
  | c :: cs => if c = '\n' then none else some cs

/-- The piece behind `cn.nytimes.com`, where that stands at the front and more follows. Any character may
stand for the dots. -/
def firstPiece? (cs : List Char) : Option (List Char) := do
  let rest ← Chars.after? "cn".toList cs
  let rest ← anyChar? rest
  let rest ← Chars.after? "nytimes".toList rest
  let rest ← anyChar? rest
  let rest ← Chars.after? "com/".toList rest
  let piece := rest.takeWhile Unicode.isWord
  let rest ← Chars.after? ['/'] (rest.dropWhile Unicode.isWord)
  let _ ← anyChar? rest
  if piece.isEmpty then none else some piece

/-- The first `firstPiece?` in an address, behind the host. -/
def firstPieceOf? (link : String) : Option String :=
  (Chars.firstSome? firstPiece? link.toList).map String.ofList

end Gazette.Section
