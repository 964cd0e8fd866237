import Gazette.Chars.Blank
import Gazette.Chars.Cut

/-!
# Cleaning running text

Text scraped from pages carries line separators, runs of white space and non-breaking spaces. The
functions here bring it to one line (`cleanParagraph`, `cleanParagraphSpaced`) or cut it into lines
(`splitLines`).
-/

namespace Gazette.Chars

/-- The characters that end a line: line feed, vertical tab, form feed, carriage return, next line,
and the line and paragraph separators. -/
def endsLine (c : Char) : Bool :=
  let n := c.toNat
  (0x0A ≤ n && n ≤ 0x0D) || n == 0x85 || n == 0x2028 || n == 0x2029

/-- A run without the characters that end a line. -/
def stripHidden (cs : List Char) : List Char := cs.filter fun c ↦ !endsLine c

/-- A run with each stretch of two or more white-space characters made one space. A single
white-space character stays as it is. -/
def collapseSpaces : List Char → List Char
  | [] => []
  | [c] => [c]
  | a :: b :: cs =>
    if isBlank a && isBlank b then ' ' :: collapseSpaces (cs.dropWhile isBlank)
    else a :: collapseSpaces (b :: cs)
termination_by cs => cs.length
decreasing_by
  · have : (cs.dropWhile isBlank).length ≤ cs.length := (List.dropWhile_sublist isBlank).length_le
    simp only [List.length_cons]
    omega
  · simp

/-- Line feeds removed, white space collapsed, ends trimmed. -/
def cleanParagraph (cs : List Char) : List Char :=
  trim (collapseSpaces (cs.filter (· ≠ '\n')))

/-- White space collapsed, line feeds made spaces, ends trimmed, so that words on two lines stay
two words. -/
def cleanParagraphSpaced (cs : List Char) : List Char :=
  trim ((collapseSpaces cs).map fun c ↦ if c = '\n' then ' ' else c)

/-- A carriage return before a line feed belongs to it, and a non-breaking space counts as a line
feed. -/
def normalizeLines : List Char → List Char
  | [] => []
  | '\r' :: '\n' :: cs => '\n' :: normalizeLines cs
  | c :: cs => (if c = '\u00a0' then '\n' else c) :: normalizeLines cs

/-- The non-empty lines of a run, trimmed. -/
def splitLines (cs : List Char) : List (List Char) :=
  ((splitAtChar '\n' (normalizeLines cs)).map trim).filter fun line ↦ !line.isEmpty

/-- The first `n` characters and the count of the others. -/
def truncate (n : Nat) (cs : List Char) : List Char × Nat := (cs.take n, cs.length - n)

end Gazette.Chars
