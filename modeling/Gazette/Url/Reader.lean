import Gazette.Chars.Blank
import Gazette.Url.Basic

/-!
# Reading addresses

An address is read by the rules of the URL standard. `Url.parse` reads one that stands alone,
`Url.join` one that may be relative to another. The common schemes take a backslash for a slash and
need a host; files have rules of their own for drive letters.
-/

namespace Gazette.Url

/-- How the scheme of an address is treated. -/
inductive Kind
  /-- The common schemes with a host. -/
  | network
  /-- Files. -/
  | file
  /-- All others. -/
  | other
deriving DecidableEq, Repr

/-- The kind of a scheme. -/
def kindOf (scheme : List Char) : Kind :=
  if ["http", "https", "ws", "wss", "ftp"].contains (String.ofList scheme) then .network
  else if scheme = "file".toList then .file
  else .other

/-- The usual port of a scheme. -/
def usualPort? (scheme : List Char) : Option Nat :=
  match String.ofList scheme with
  | "http" | "ws" => some 80
  | "https" | "wss" => some 443
  | "ftp" => some 21
  | _ => none

/-- A run without controls and spaces at its ends, and without tabs and line ends. -/
def tidy (cs : List Char) : List Char :=
  (Chars.trimBy (fun c ↦ c.toNat ≤ 0x20) cs).filter fun c ↦ c != '\t' && c != '\n' && c != '\r'

/-- The scheme in front of a run and what follows its colon. -/
def scheme? (cs : List Char) : Option (List Char × List Char) :=
  let scheme := cs.takeWhile fun c ↦ c.isAlphanum || c == '+' || c == '-' || c == '.'
  match scheme, cs.drop scheme.length with
  | first :: _, ':' :: rest => if first.isAlpha then some (Chars.asciiLower scheme, rest) else none
  | _, _ => none

def isSlash (c : Char) : Bool := c == '/' || c == '\\'

/-- Whether a character ends a path. -/
def endsPath (c : Char) : Bool := c == '?' || c == '#'

/-- Query and fragment, from the `?` or `#` on. -/
def tailOf (kind : Kind) (cs : List Char) : Option (List Char) × Option (List Char) :=
  let inSet := if kind = .other then Percent.inQuery else Percent.inSpecialQuery
  let fragmentOf (cs : List Char) : Option (List Char) :=
    match cs with
    | '#' :: rest => some (Percent.encode Percent.inFragment rest)
    | _ => none
  match cs with
  | '?' :: rest =>
    (some (Percent.encode inSet (rest.takeWhile (· != '#'))), fragmentOf (rest.dropWhile (· != '#')))
  | cs => (none, fragmentOf cs)

/-! ## Paths -/

/-- The segments of a path. -/
def segmentsOf (path : List Char) : List (List Char) := (Chars.splitAtChar '/' path).drop 1

/-- The path of a list of segments. -/
def pathOf (segments : List (List Char)) : List Char := segments.flatMap ('/' :: ·)

/-- Whether a segment stands for the one above. A dot may be percent-encoded. -/
def isParent (segment : List Char) : Bool :=
  ["..", "%2e.", ".%2e", "%2e%2e"].contains (String.ofList (Chars.asciiLower segment))

/-- Whether a segment stands for itself. -/
def isSelf (segment : List Char) : Bool :=
  [".", "%2e"].contains (String.ofList (Chars.asciiLower segment))

/-- Whether a segment is a letter and a colon or bar. -/
def isDrive : List Char → Bool
  | [a, b] => a.isAlpha && (b == ':' || b == '|')
  | _ => false

/-- Whether a path segment with a drive letter stands in front, as a whole segment. -/
def startsWithDrive : List Char → Bool
  | [a, b] => isDrive [a, b]
  | a :: b :: c :: _ => isDrive [a, b] && (isSlash c || endsPath c)
  | _ => false

/-- The segments without the last one. A drive letter of a file stays. -/
def shorten (kind : Kind) (segments : List (List Char)) : List (List Char) :=
  match kind, segments.getLast? with
  | .file, some last => if isDrive last then segments else segments.dropLast
  | _, _ => segments.dropLast

/-- A segment as it is added to others. A drive letter in front gets a colon. -/
def settled (kind : Kind) (before : List (List Char)) (segment : List Char) : List Char :=
  let segment := Percent.encode Percent.inPath segment
  match kind, before, segment with
  | .file, [], [a, '|'] => if a.isAlpha then [a, ':'] else segment
  | _, _, _ => segment

/-- The segments that `pieces` lead to from `before`. A last piece that is a dot or two leaves an empty
segment. -/
def follow (kind : Kind) (before : List (List Char)) : List (List Char) → List (List Char)
  | [] => before
  | [piece] =>
    if isParent piece then shorten kind before ++ [[]]
    else if isSelf piece then before ++ [[]]
    else before ++ [settled kind before piece]
  | piece :: pieces =>
    if isParent piece then follow kind (shorten kind before) pieces
    else if isSelf piece then follow kind before pieces
    else follow kind (before ++ [settled kind before piece]) pieces

/-- The pieces of a path, up to its end. -/
def piecesOf (kind : Kind) (cs : List Char) : List (List Char) :=
  let text := cs.takeWhile fun c ↦ !endsPath c
  Chars.splitAtChar '/'
    (if kind = .other then text else text.map fun c ↦ if c = '\\' then '/' else c)

/-- The path that `cs` leads to from the segments `before`, by `follow`. Files lose empty segments in front. -/
def walk (kind : Kind) (before : List (List Char)) (cs : List Char) : List Char :=
  let segments := follow kind before (piecesOf kind cs)
  match kind with
  | .file => '/' :: (pathOf segments).dropWhile (· == '/')
  | _ => pathOf segments

/-- What follows the path. -/
def pathEnd (cs : List Char) : List Char := cs.dropWhile fun c ↦ !endsPath c

/-- The path behind an authority, by `walk` from its root. -/
def pathBehind (kind : Kind) (cs : List Char) : List Char :=
  match cs with
  | [] => if kind = .other then [] else ['/']
  | c :: rest =>
    if kind = .other then
      if endsPath c then []
      else if c = '/' then walk kind [] rest
      else walk kind [] cs
    else if isSlash c then walk kind [] rest
    else walk kind [] cs

/-! ## Authorities -/

/-- Where an authority ends. -/
def endsAuthority (kind : Kind) (c : Char) : Bool :=
  c == '/' || endsPath c || (c == '\\' && kind != .other)

/-- User name and password in front of a host, and what follows the last `@`. -/
def userOf (kind : Kind) (cs : List Char) :
    Except UrlError (List Char × Option (List Char) × List Char) :=
  let text := cs.takeWhile fun c ↦ !endsAuthority kind c
  let behind := cs.drop text.length
  let host := (text.reverse.takeWhile (· != '@')).reverse
  if host.length = text.length then .ok ([], none, cs)
  else
    let user := text.take (text.length - host.length - 1)
    let rest := host ++ behind
    if user.isEmpty then
      if host.isEmpty && !behind.isEmpty then .error .emptyHost else .ok ([], none, rest)
    else
      let name := Percent.encode Percent.inUser (user.takeWhile (· != ':'))
      match user.dropWhile (· != ':') with
      | _ :: c :: password => .ok (name, some (Percent.encode Percent.inUser (c :: password)), rest)
      | _ => .ok (name, none, rest)

/-- The length of the host in front: up to a colon outside brackets or the end of the authority. -/
def hostLength (kind : Kind) (bracketed : Bool) : List Char → Nat
  | [] => 0
  | c :: cs =>
    if (c == ':' && !bracketed) || endsAuthority kind c then 0
    else 1 + hostLength kind (if c = '[' then true else if c = ']' then false else bracketed) cs

/-- A port and what follows it. The usual port of the scheme counts as none. -/
def portOf (scheme : List Char) (cs : List Char) :
    Except UrlError (Option Nat × List Char) :=
  let digits := cs.takeWhile Char.isDigit
  let port := Number.valueIn 10 digits
  let rest := cs.drop digits.length
  if 65535 < port then .error .invalidPort
  else
    match rest with
    | c :: _ => if isSlash c || endsPath c then .ok (found digits port, rest) else .error .invalidPort
    | [] => .ok (found digits port, [])
where
  /-- A port that is written and not the usual one. -/
  found (digits : List Char) (port : Nat) : Option Nat :=
    if digits.isEmpty || usualPort? scheme = some port then none else some port

/-- The authority in front of a run, by `userOf`, `Host.ofText` and `portOf`, and what follows it. -/
def authorityOf (scheme : List Char) (cs : List Char) : Except UrlError (Authority × List Char) := do
  let kind := kindOf scheme
  let (username, password, cs) ← userOf kind cs
  let text := cs.take (hostLength kind false cs)
  let cs := cs.drop text.length
  let host ←
    if kind = .network then
      if text.isEmpty then .error .emptyHost else Host.ofText text
    else Host.ofOpaque text
  let host? := if host = .name [] then none else some host
  if host?.isNone && cs.head? = some ':' then throw .emptyHost
  let (port, cs) ← match cs with
    | ':' :: rest => portOf scheme rest
    | cs => pure (none, cs)
  if host?.isNone && (!username.isEmpty || password.isSome) then throw .emptyHost
  return (⟨username, password, host?, port⟩, cs)

/-- The address behind a scheme and two slashes, by `authorityOf` and `pathBehind`. -/
def behindSlashes (scheme : List Char) (cs : List Char) : Except UrlError Url := do
  let kind := kindOf scheme
  let (authority, cs) ← authorityOf scheme cs
  let (query, fragment) := tailOf kind (pathEnd cs)
  return ⟨scheme, some authority, pathBehind kind cs, query, fragment⟩

/-! ## Relative addresses -/

/-- The base with another fragment. -/
def withFragment (base : Url) (cs : List Char) : Url :=
  { base with fragment := (tailOf (kindOf base.scheme) cs).2 }

/-- The base with another query and fragment. -/
def withTail (base : Url) (cs : List Char) : Url :=
  let (query, fragment) := tailOf (kindOf base.scheme) cs
  { base with query, fragment }

/-- The base with the path that `cs` leads to from the segments `before`. -/
def withPath (base : Url) (before : List (List Char)) (cs : List Char) : Url :=
  let kind := kindOf base.scheme
  let (query, fragment) := tailOf kind (pathEnd cs)
  { base with path := walk kind before cs, query, fragment }

/-- A relative address, its base being no file. -/
def relativeTo (base : Url) (cs : List Char) : Except UrlError Url :=
  match cs with
  | [] => .ok { base with fragment := none }
  | '?' :: _ => .ok (withTail base cs)
  | '#' :: _ => .ok (withFragment base cs)
  | c :: rest =>
    if isSlash c then
      let slashes := cs.takeWhile isSlash
      if 2 ≤ slashes.length then
        match cs with
        | '/' :: '/' :: rest => behindSlashes base.scheme rest
        | cs => behindSlashes base.scheme (cs.drop slashes.length)
      else .ok (withPath base [] rest)
    else .ok (withPath base (segmentsOf base.path).dropLast cs)

/-- A file with the host and the path in `cs`, which follows two slashes. A host before a drive letter
is dropped, and so is `localhost`. -/
def fileBehindSlashes (cs : List Char) : Except UrlError Url := do
  let text := cs.takeWhile fun c ↦ !(isSlash c || endsPath c)
  let (host?, rest) ←
    if isDrive text then pure (none, cs)
    else
      let rest := cs.drop text.length
      if text.isEmpty then pure (none, rest)
      else do
        let host ← Host.ofText text
        pure (if host = .name "localhost".toList then none else some host, rest)
  let start := match host?, rest with
    | some _, c :: more => if isSlash c then more else rest
    | _, rest => rest
  let (query, fragment) := tailOf .file (pathEnd rest)
  let drive := isDrive ((piecesOf .file start).headD [])
  let host? := if drive then none else host?
  return ⟨"file".toList, some { Authority.empty with host := host? }, walk .file [] start, query,
    fragment⟩

/-- A file, with a base that is a file. -/
def fileRelativeTo (base : Option Url) (cs : List Char) : Except UrlError Url :=
  let bare : Url := ⟨"file".toList, some Authority.empty, ['/'], none, none⟩
  match cs with
  | a :: b :: rest =>
    if isSlash a && isSlash b then fileBehindSlashes rest
    else single bare a (b :: rest)
  | [a] => single bare a []
  | [] =>
    match base with
    | some base => .ok { base with fragment := none }
    | none => .ok bare
where
  /-- A file whose text does not begin with two slashes. -/
  single (bare : Url) (c : Char) (rest : List Char) : Except UrlError Url :=
    if isSlash c then
      match base with
      | some base =>
        let drive := (segmentsOf base.path).headD []
        if startsWithDrive rest then .ok (withPath bare [] rest)
        else if isDrive drive then .ok (withPath bare [drive] rest)
        else .ok (withPath { bare with authority := base.authority } [] rest)
      | none => .ok (withPath bare [] rest)
    else
      match base with
      | none => .ok (withPath bare [] (c :: rest))
      | some base =>
        if c = '?' then .ok (withTail base (c :: rest))
        else if c = '#' then .ok (withFragment base (c :: rest))
        else if startsWithDrive (c :: rest) then .ok (withPath bare [] (c :: rest))
        else .ok (withPath base (shorten .file (segmentsOf base.path)) (c :: rest))

/-! ## Whole addresses -/

/-- An address with a scheme of the third kind. -/
def otherOf (scheme : List Char) (cs : List Char) : Except UrlError Url :=
  let (query, fragment) := tailOf .other (pathEnd cs)
  match cs with
  | '/' :: '/' :: rest => behindSlashes scheme rest
  | '/' :: rest => .ok ⟨scheme, none, walk .other [] rest, query, fragment⟩
  | cs =>
    .ok ⟨scheme, none, Percent.encode Percent.isControl (cs.takeWhile fun c ↦ !endsPath c),
      query, fragment⟩

/-- Reads an address, relative to `base` where it has one: by `behindSlashes`, `otherOf`, `relativeTo` or
`fileRelativeTo`. -/
def read (base : Option Url) (text : List Char) : Except UrlError Url :=
  let cs := tidy text
  match scheme? cs with
  | some (scheme, rest) =>
    match kindOf scheme with
    | .file => fileRelativeTo (base.filter fun b ↦ b.scheme = scheme) rest
    | .network =>
      let slashes := rest.takeWhile isSlash
      match base with
      | some b =>
        if slashes.length < 2 ∧ b.scheme = scheme then relativeTo b rest
        else behindSlashes scheme (rest.drop slashes.length)
      | none => behindSlashes scheme (rest.drop slashes.length)
    | .other => otherOf scheme rest
  | none =>
    match base with
    | none => .error .relativeWithoutBase
    | some b =>
      if cs.head? = some '#' then .ok (withFragment b cs)
      else if b.isOpaque then .error .relativeToOpaque
      else if kindOf b.scheme = .file then fileRelativeTo (some b) cs
      else relativeTo b cs

/-- The address that a string writes, by `read` without a base. -/
def parse (s : String) : Except UrlError Url := read none s.toList

/-- The address that a string writes, by `read` relative to another one. -/
def join (base : Url) (s : String) : Except UrlError Url := read (some base) s.toList

/-- The address of a link on a page: `join`ed to the address of the page, where that is known. White space at the
ends does not count. -/
def resolve (base : Option Url) (href : String) : Except UrlError Url :=
  match base with
  | some base => base.join (String.ofList (Chars.trim href.toList))
  | none => parse (String.ofList (Chars.trim href.toList))

end Gazette.Url
