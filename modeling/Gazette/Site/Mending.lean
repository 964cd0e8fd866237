import Gazette.LinkedData.Block
import Gazette.Site.Basic

/-!
# Mending linked data

Some sites write linked data that would be misread or not read at all, and mend them first (`Site.mend`):
`describing` renames a key, `narrowed` takes one object of several.
-/

namespace Gazette.Mending

/-- The mark of a topic that stands where a description is due. -/
def aboutMark : List Char := ",\"about\":".toList

/-- The mark of a description. -/
def descriptionMark : List Char := ",\"description\":".toList

/-- The text with `descriptionMark` in the place of `aboutMark`, if there is one on this line behind a headline
that stands here, and an address behind it. -/
def describe? (cs : List Char) : Option (List Char) := do
  let headline := "\"headline\":".toList
  let rest ← Chars.after? headline cs
  let (head, tail) ← Chars.cut? aboutMark (rest.takeWhile (· != '\n'))
  if Chars.contains ",\"url\":".toList tail then
    some (headline ++ head ++ descriptionMark ++ tail ++ rest.dropWhile (· != '\n'))
  else none

/-- A block whose topic, where it stands between headline and address, is called its description, by
`describe?`. -/
def describing (block : String) : String :=
  match Chars.firstPlace? describe? block.toList with
  | some (head, rest) => String.ofList (head ++ rest)
  | none => block

/-- The text from the first opening to the last closing square bracket, if they stand in this order. -/
def inBrackets (cs : List Char) : List Char :=
  let lead := (cs.takeWhile (· != '[')).length
  let tail := (cs.reverse.takeWhile (· != ']')).length
  if lead + 1 + tail < cs.length then (cs.drop lead).take (cs.length - lead - tail) else cs

/-- The first block that describes an article in what stands `inBrackets`, out of a list of several; the empty
object if there is none. A block that has nothing in brackets stays what it is if it describes an article. -/
def narrowed (block : String) : String :=
  (LinkedData.block? newsArticle (String.ofList (inBrackets block.toList))).getD "\x7b\x7d"

end Gazette.Mending
