/-!
# White space

The characters with the Unicode property White_Space, and cutting them from the ends of a run of
characters. `trim` is the widest cut: what is left starts and ends with something visible, or is
empty.
-/

namespace Gazette.Chars

/-- The characters with the property White_Space. -/
def isBlank (c : Char) : Bool :=
  let n := c.toNat
  (9 ≤ n && n ≤ 13) || n == 0x20 || n == 0x85 || n == 0xA0 || n == 0x1680 ||
    (0x2000 ≤ n && n ≤ 0x200A) || n == 0x2028 || n == 0x2029 || n == 0x202F || n == 0x205F ||
    n == 0x3000

/-- A run without the characters at its front that satisfy `p`. -/
def trimStartBy (p : Char → Bool) (cs : List Char) : List Char := cs.dropWhile p

/-- A run without the characters at its back that satisfy `p`. -/
def trimEndBy (p : Char → Bool) (cs : List Char) : List Char := (cs.reverse.dropWhile p).reverse

/-- A run without the characters at both ends that satisfy `p`. -/
def trimBy (p : Char → Bool) (cs : List Char) : List Char := trimEndBy p (trimStartBy p cs)

/-- A run without white space at its ends. -/
def trim (cs : List Char) : List Char := trimBy isBlank cs

end Gazette.Chars
