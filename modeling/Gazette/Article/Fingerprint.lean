import Gazette.Article.Basic
import Gazette.Bytes.Base64
import Gazette.Bytes.Md5
import Gazette.Bytes.Utf8

/-!
# Fingerprints of articles

Two records of one article often differ in layout only. `Article.contentHash` sees the letters and numbers of
title and content (`Text.fingerprint`), the address, and the day, which `Article.hashKey` puts together.
-/

namespace Gazette.Article

/-- The day of `Article.published`; empty if it is not known. -/
def dayText (a : Article) : List Char :=
  match a.published with
  | some t => t.dateText
  | none => []

/-- What `contentHash` is taken of: title, address and content, and the day behind an `@`. -/
def hashKey (a : Article) : List Char :=
  (Text.fingerprint a.title).toList ++ a.linkText.toList ++
    (Text.fingerprint (Text.concat a.content)).toList ++ '@' :: a.dayText

/-- The fingerprint: the MD5 digest of `hashKey`, in Base64. -/
def contentHash (a : Article) : String :=
  String.ofList (Base64.encode (Md5.digest (Utf8.encode a.hashKey)))

end Gazette.Article
