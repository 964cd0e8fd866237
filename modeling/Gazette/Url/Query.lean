import Gazette.Url.Basic

/-!
# Query parameters

The query of an address as pairs of a key and a value (`Url.queryPairs`), in the form that web forms send: pairs
are divided by `&`, a plus sign is a space, and everything else may be percent-encoded.
-/

namespace Gazette.Url

def unescapeField (cs : List Char) : List Char :=
  Utf8.decodeLossy (Percent.decode (cs.map fun c ↦ if c = '+' then ' ' else c))

/-- A pair: what stands before the first `=` and behind it. -/
def pairOf (cs : List Char) : List Char × List Char :=
  let key := cs.takeWhile (· != '=')
  (unescapeField key, unescapeField (cs.drop (key.length + 1)))

/-- The pairs of a query, in order, each by `pairOf`. -/
def queryPairs (u : Url) : List (List Char × List Char) :=
  ((Chars.splitAtChar '&' (u.query.getD [])).filter fun piece ↦ !piece.isEmpty).map pairOf

/-- The first value of a key among `queryPairs`; empty if the key does not occur. -/
def queryValue (u : Url) (key : List Char) : List Char :=
  ((u.queryPairs.find? (·.1 = key)).map (·.2)).getD []

end Gazette.Url
