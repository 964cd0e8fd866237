import Gazette.Url.HostName
import Gazette.Url.Percent

/-!
# Hosts

The `Host` of an address: a name, or an address of the Internet Protocol of either version. A name whose last
label is a number (`endsInNumber`) is read as an address of version 4 (`ofIpv4`).
-/

namespace Gazette

/-- What is wrong with the text of an address. -/
inductive UrlError
  /-- The scheme needs a host, and there is none. -/
  | emptyHost
  /-- The host is no host name. -/
  | invalidHostName
  /-- The port is no number below 65536. -/
  | invalidPort
  /-- The host is no address of version 4. -/
  | invalidIpv4
  /-- The host is no address of version 6. -/
  | invalidIpv6
  /-- The host holds a character that hosts may not hold. -/
  | invalidHostCharacter
  /-- The text is relative, and there is nothing to resolve it against. -/
  | relativeWithoutBase
  /-- The text is relative, and what to resolve it against has no path of segments. -/
  | relativeToOpaque
deriving DecidableEq, Repr

def UrlError.message : UrlError → String
  | emptyHost => "empty host"
  | invalidHostName => "invalid international domain name"
  | invalidPort => "invalid port number"
  | invalidIpv4 => "invalid IPv4 address"
  | invalidIpv6 => "invalid IPv6 address"
  | invalidHostCharacter => "invalid domain character"
  | relativeWithoutBase => "relative URL without a base"
  | relativeToOpaque => "relative URL with a cannot-be-a-base base"

/-- The host of an address. -/
inductive Host
  /-- A name. -/
  | name (text : List Char)
  /-- An address of version 4, as a number. -/
  | ipv4 (address : Nat)
  /-- An address of version 6, as eight pieces. -/
  | ipv6 (pieces : List Nat)
deriving DecidableEq, Repr

namespace Host

/-- A part of an address of version 4: hexadecimal after `0x`, octal after `0`, else decimal. -/
def ipv4Part? (cs : List Char) : Option Nat :=
  let number (base : Nat) (digits : List Char) : Option Nat :=
    if digits.all fun c ↦ (Number.digitValue? c).any (· < base) then some (Number.valueIn base digits)
    else none
  match cs with
  | [] => none
  | '0' :: 'x' :: digits => number 16 digits
  | '0' :: 'X' :: digits => number 16 digits
  | '0' :: d :: digits => number 8 (d :: digits)
  | digits => number 10 digits

/-- Whether the last label of a name, an empty one aside, is a number. -/
def endsInNumber (cs : List Char) : Bool :=
  let last? := match (Chars.splitAtChar '.' cs).reverse with
    | [] :: before :: _ => some before
    | [] :: _ => none
    | last :: _ => some last
    | [] => none
  match last? with
  | some last => (!last.isEmpty && last.all Char.isDigit) || (ipv4Part? last).isSome
  | none => false

/-- An address of version 4. The last of up to four parts fills the bytes that are left. -/
def ofIpv4 (cs : List Char) : Except UrlError Host :=
  let labels := Chars.splitAtChar '.' cs
  let labels := if labels.getLast? = some [] then labels.dropLast else labels
  match labels.mapM ipv4Part? with
  | none => .error .invalidIpv4
  | some parts =>
    let last := parts.getLast?.getD 0
    let leading := parts.dropLast
    if parts.length ≤ 4 ∧ leading.all (· ≤ 255) ∧ last < Nat.pow 256 (4 - leading.length) then
      let shifts := [16777216, 65536, 256]
      .ok (.ipv4 ((leading.zip shifts).foldl (fun n (part, weight) ↦ n + part * weight) last))
    else .error .invalidIpv4

/-- Four decimal numbers without leading zeros as two pieces. -/
def dottedPieces? (cs : List Char) : Option (List Nat) :=
  let byte? (digits : List Char) : Option Nat :=
    if !digits.isEmpty && digits.length ≤ 3 && digits.all Char.isDigit &&
        (digits.length == 1 || digits.head? != some '0') && Number.valueIn 10 digits ≤ 255 then
      some (Number.valueIn 10 digits)
    else none
  match (Chars.splitAtChar '.' cs).mapM byte? with
  | some [a, b, c, d] => some [a * 256 + b, c * 256 + d]
  | _ => none

/-- The pieces of a part of an address of version 6 without a gap. Its last piece may be dotted where
`dotted` holds. -/
def pieces? (dotted : Bool) (cs : List Char) : Option (List Nat) :=
  let piece? (digits : List Char) : Option Nat :=
    if !digits.isEmpty && digits.length ≤ 4 && digits.all fun c ↦ (Number.digitValue? c).isSome then
      some (Number.valueIn 16 digits)
    else none
  if cs.isEmpty then some []
  else
    let texts := Chars.splitAtChar ':' cs
    let last := texts.getLast?.getD []
    if dotted && last.contains '.' then do
      let front ← texts.dropLast.mapM piece?
      let back ← dottedPieces? last
      return front ++ back
    else texts.mapM piece?

/-- An address of version 6, without its brackets. One gap `::` stands for one or more zero pieces. -/
def ofIpv6 (cs : List Char) : Except UrlError Host :=
  match Chars.cut? [':', ':'] cs with
  | none =>
    match pieces? true cs with
    | some pieces => if pieces.length = 8 then .ok (.ipv6 pieces) else .error .invalidIpv6
    | none => .error .invalidIpv6
  | some (front, back) =>
    match pieces? false front, pieces? true back with
    | some a, some b =>
      if a.length + b.length ≤ 7 then
        .ok (.ipv6 (a ++ List.replicate (8 - a.length - b.length) 0 ++ b))
      else .error .invalidIpv6
    | _, _ => .error .invalidIpv6

/-- What stands in brackets, by `ofIpv6`. -/
def ofBracketed (cs : List Char) : Except UrlError Host :=
  match cs.getLast? with
  | some ']' => ofIpv6 (cs.drop 1).dropLast
  | _ => .error .invalidIpv6

/-- The host of an address with one of the common schemes: `ofBracketed`, `ofIpv4`, or a name by
`HostName.toAscii?`. -/
def ofText (cs : List Char) : Except UrlError Host :=
  if cs.head? = some '[' then ofBracketed cs
  else
    match Url.HostName.toAscii? (Utf8.decodeLossy (Percent.decode cs)) with
    | none => .error .invalidHostName
    | some [] => .error .emptyHost
    | some label => if endsInNumber label then ofIpv4 label else .ok (.name label)

/-- The host of an address with another scheme, which is not looked into. -/
def ofOpaque (cs : List Char) : Except UrlError Host :=
  if cs.head? = some '[' then ofBracketed cs
  else if cs.any fun c ↦ "\x00\t\n\r #/:<>?@[\\]^|".toList.contains c then
    .error .invalidHostCharacter
  else .ok (.name (Percent.encode Percent.isControl cs))

/-- The number of zeros in front of a list of pieces. -/
def zeros (pieces : List Nat) : Nat := (pieces.takeWhile (· == 0)).length

/-- Where the longest run of zero pieces begins and how long it is. The first of equals wins. -/
def longestGap : Nat → List Nat → Nat × Nat
  | _, [] => (0, 0)
  | place, p :: rest =>
    let here := zeros (p :: rest)
    let (later, length) := longestGap (place + 1) rest
    if length ≤ here then (place, here) else (later, length)

def piecesText (pieces : List Nat) : List Char :=
  Chars.joinWith [':'] (pieces.map (Nat.toDigits 16))

/-- The text of a host as it stands in an address. In one of version 6 the `longestGap` is written `::`. -/
def toText : Host → List Char
  | name text => text
  | ipv4 n =>
    Chars.joinWith ['.'] ([n / 16777216, n / 65536 % 256, n / 256 % 256, n % 256].map
      Number.decimal)
  | ipv6 pieces =>
    let (start, length) := longestGap 0 pieces
    let body :=
      if 2 ≤ length then
        piecesText (pieces.take start) ++ ':' :: ':' :: piecesText (pieces.drop (start + length))
      else piecesText pieces
    '[' :: body ++ [']']

/-- The longest run of zeros is left out, the first of equals. -/
example : toText (.ipv6 [1, 0, 0, 2, 0, 0, 0, 3]) = "[1:0:0:2::3]".toList ∧
    toText (.ipv4 0x7F000001) = "127.0.0.1".toList := by decide +kernel

end Host

end Gazette
