import Gazette.Chars.Clean
import Gazette.Unicode.Alphanumeric

/-!
# Text

The operations of `Gazette.Chars` on runs of characters, for strings. Each one is its list form between
`String.toList` and `String.ofList` (`Text.via`), so a law of the list form is a law here.
-/

namespace Gazette.Text

open Gazette

/-- The string that `f` makes of the characters of `s`. -/
def via (f : List Char → List Char) (s : String) : String := String.ofList (f s.toList)

@[simp] theorem toList_via (f : List Char → List Char) (s : String) :
    (via f s).toList = f s.toList := String.toList_ofList

/-- A string without white space at its ends. -/
def trim (s : String) : String := via Chars.trim s

/-- A string without line separators. -/
def stripHidden (s : String) : String := via Chars.stripHidden s

/-- A string with each stretch of white space made one space. -/
def collapseSpaces (s : String) : String := via Chars.collapseSpaces s

/-- A paragraph on one line; words broken over a line feed are joined. -/
def cleanParagraph (s : String) : String := via Chars.cleanParagraph s

/-- A paragraph on one line; words on both sides of a line feed stay apart. -/
def cleanParagraphSpaced (s : String) : String := via Chars.cleanParagraphSpaced s

/-- The non-empty lines of a string, trimmed. -/
def splitLines (s : String) : List String := (Chars.splitLines s.toList).map String.ofList

/-- The letters and numbers of a string. -/
def fingerprint (s : String) : String := via (List.filter Unicode.isAlphanumeric) s

/-- The first `n` characters and the count of the others. -/
def truncate (n : Nat) (s : String) : String × Nat :=
  let (head, rest) := Chars.truncate n s.toList
  (String.ofList head, rest)

/-- Whether `lead` stands at the front. -/
def startsWith (lead s : String) : Bool := Chars.startsWith lead.toList s.toList

/-- Whether `mark` stands somewhere. -/
def contains (mark s : String) : Bool := Chars.contains mark.toList s.toList

/-- A string without `lead` at its front, where it stands there. -/
def dropLead (lead s : String) : String := via (Chars.dropLead lead.toList) s

/-- A string without `tail` at its back, where it stands there. -/
def dropTail (tail s : String) : String := via (Chars.dropTail tail.toList) s

/-- The pieces of a string between the places where `mark` stands. -/
def splitOn (mark s : String) : List String :=
  (Chars.splitOn mark.toList s.toList).map String.ofList

/-- The piece of a string before the first place where `mark` stands. -/
def headPiece (mark s : String) : String :=
  match Chars.cut? mark.toList s.toList with
  | some (head, _) => String.ofList head
  | none => s

/-- A string with `new` wherever `old` stood. -/
def replace (old new s : String) : String := via (Chars.replace old.toList new.toList) s

/-- A string with the letters `A` to `Z` in lower case. -/
def asciiLower (s : String) : String := via Chars.asciiLower s

/-- Strings put together with `mark` between them. -/
def joinWith (mark : String) (pieces : List String) : String :=
  String.ofList (Chars.joinWith mark.toList (pieces.map String.toList))

/-- Strings put together. -/
def concat (pieces : List String) : String := String.ofList (pieces.flatMap String.toList)

end Gazette.Text
