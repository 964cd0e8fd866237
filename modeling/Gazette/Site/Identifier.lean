import Gazette.Bytes.Base64
import Gazette.Bytes.Md5
import Gazette.Bytes.Utf8
import Gazette.Chars.Blank
import Gazette.Url.Query

/-!
# Identifiers

How an address identifies an article: the rules `Site.guid` of the sites. Each one takes a few parts of the path
or of the query. The path of an address is percent-encoded, so letters and digits are those of ASCII here.
-/

namespace Gazette.Identifier

/-- The path with its leading slashes dropped and the others made dashes. -/
def dashed (path : List Char) : List Char :=
  (Chars.trimStartBy (· == '/') path).map fun c ↦ if c = '/' then '-' else c

/-- The last piece of the path that is not empty. -/
def lastPiece (path : List Char) : List Char :=
  ((Chars.splitAtChar '/' (Chars.trimEndBy (· == '/') path)).getLast?).getD []

/-- A letter, a digit or an underscore. -/
def isWord (c : Char) : Bool := c.isAlphanum || c == '_'

/-- A small letter. -/
def isSmall (c : Char) : Bool := 'a' ≤ c && c ≤ 'z'

/-- The characters at the front that satisfy `p`, if there are at least `least` and at most `most` of
them, and what follows them. -/
def run? (p : Char → Bool) (least most : Nat) (cs : List Char) : Option (List Char × List Char) :=
  let run := cs.takeWhile p
  if least ≤ run.length && run.length ≤ most then some (run, cs.dropWhile p) else none

/-- Category and number of `news/category/number.aspx`, where the text stands at the front. -/
def numberedPage? (cs : List Char) : Option (List Char) := do
  let rest ← Chars.after? "news/".toList cs
  let (category, rest) ← run? isWord 3 4 rest
  let rest ← Chars.after? ['/'] rest
  let (number, rest) ← run? Char.isDigit 1 rest.length rest
  let _ ← Chars.after? ".aspx".toList rest
  return category ++ '-' :: number

/-- The two numbers of `word/word/number/number`, where the text stands at the front: four to seven
digits, and the first eight of four or more. -/
def storyNumbers? (cs : List Char) : Option (List Char) := do
  let (_, rest) ← run? isSmall 1 cs.length cs
  let rest ← Chars.after? ['/'] rest
  let (_, rest) ← run? isSmall 1 rest.length rest
  let rest ← Chars.after? ['/'] rest
  let (first, rest) ← run? Char.isDigit 4 7 rest
  let rest ← Chars.after? ['/'] rest
  let (second, _) ← run? Char.isDigit 4 rest.length rest
  return first ++ '-' :: second.take 8

/-- The parts of `numberedPage?`, where the path has such a page; else the `dashed` path. -/
def byNumberedPage (u : Url) : String :=
  String.ofList ((Chars.firstSome? numberedPage? u.path).getD (dashed u.path))

/-- The parts of `storyNumbers?`, where the path has them; else the path with dashes. -/
def byStoryNumbers (u : Url) : String :=
  String.ofList ((Chars.firstSome? storyNumbers? u.path).getD
    (u.path.map fun c ↦ if c = '/' then '-' else c))

/-- The `lastPiece` of the path. -/
def byLastPiece (u : Url) : String := String.ofList (lastPiece u.path)

/-- The `dashed` path. -/
def byPath (u : Url) : String := String.ofList (dashed u.path)

/-- The pieces of the path behind the first one, without the ending `.htm`. -/
def byDatedPage (u : Url) : String :=
  let pieces := Chars.splitAtChar '/' (Chars.dropTail ".htm".toList u.path)
  String.ofList (Chars.joinWith ['-'] (pieces.drop 2))

/-- The path between the host, where that is written once more, and the name of the script that the page
is in. -/
def byInnerPath (u : Url) : String :=
  let path := Chars.dropLead "/cn.nytimes.com/".toList u.path
  let path := Chars.dropTail "/zh-hant/".toList path
  String.ofList (dashed (Chars.trimBy (· == '/') path))

/-- The first fifteen bytes of the MD5 digest of `lastPiece`, which is long, in Base64. -/
def byDigest (u : Url) : String :=
  String.ofList (Base64.encode ((Md5.digest (Utf8.encode (lastPiece u.path))).take 15))

/-- The path with its first inner slash made a dash. -/
def byCategoryAndNumber (u : Url) : String :=
  String.ofList (Chars.replaceFirst ['/'] ['-'] (Chars.dropLead ['/'] u.path))

/-- The value of `key` in the query, by `Url.queryValue`. -/
def byQueryValue (key : String) (u : Url) : String := String.ofList (u.queryValue key.toList)

/-- The values of two keys in the query, with a dash between them. -/
def byQueryValues (first second : String) (u : Url) : String :=
  byQueryValue first u ++ "-" ++ byQueryValue second u

end Gazette.Identifier
