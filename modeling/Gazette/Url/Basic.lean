import Gazette.Url.Host

/-!
# Addresses

The parts of an address (`Url`, `Authority`) and how they are written together (`Url.href`). All parts are kept
as they are written, percent-encoded.
-/

namespace Gazette

/-- What stands behind the two slashes of an address. -/
structure Authority where
  /-- The user name; empty if there is none. -/
  username : List Char
  /-- The password. -/
  password : Option (List Char)
  /-- The host; some schemes do without. -/
  host : Option Host
  /-- The port, where it is not the usual one of the scheme. -/
  port : Option Nat
deriving DecidableEq, Repr

/-- An address. -/
structure Url where
  /-- The scheme in lower case. -/
  scheme : List Char
  /-- What stands behind two slashes. -/
  authority : Option Authority
  /-- The path. -/
  path : List Char
  /-- What stands between `?` and `#`. -/
  query : Option (List Char)
  /-- What stands behind `#`. -/
  fragment : Option (List Char)
deriving DecidableEq, Repr

namespace Authority

/-- User name and password with the `@` behind them. -/
def userText (a : Authority) : List Char :=
  match a.password with
  | some password => a.username ++ ':' :: password ++ ['@']
  | none => if a.username.isEmpty then [] else a.username ++ ['@']

def hostText (a : Authority) : List Char :=
  (match a.host with
    | some host => host.toText
    | none => []) ++
  match a.port with
  | some port => ':' :: Number.decimal port
  | none => []

/-- An authority as it stands in an address: `userText` and `hostText`. -/
def toText (a : Authority) : List Char := a.userText ++ a.hostText

def empty : Authority := ⟨[], none, none, none⟩

end Authority

namespace Url

/-- The host of an address. -/
def host? (u : Url) : Option Host := u.authority.bind Authority.host

/-- The text of the host. -/
def hostText? (u : Url) : Option (List Char) := u.host?.map Host.toText

/-- Whether the path is no path of segments, so that nothing can be resolved against it. -/
def isOpaque (u : Url) : Bool := u.authority.isNone && u.path.head? != some '/'

/-- Scheme, authority and path. Without an authority a path that begins with two slashes has `/.` in
front, or it would read as an authority. -/
def stemText (u : Url) : List Char :=
  u.scheme ++ ':' ::
    (match u.authority with
      | some a => '/' :: '/' :: a.toText
      | none => if Chars.startsWith ['/', '/'] u.path then ['/', '.'] else []) ++
    u.path

/-- An address without its fragment: `stemText` and the query. -/
def toTextWithoutFragment (u : Url) : List Char :=
  u.stemText ++
    match u.query with
    | some query => '?' :: query
    | none => []

/-- The text of an address: `toTextWithoutFragment` and the fragment. -/
def toText (u : Url) : List Char :=
  u.toTextWithoutFragment ++
    match u.fragment with
    | some fragment => '#' :: fragment
    | none => []

/-- `toText` as a string. -/
def href (u : Url) : String := String.ofList u.toText

end Url

end Gazette
