import Gazette.Charset.Detect
import Gazette.Unicode.Lowercase

/-!
# Bodies of answers

The text of the body of an answer: `Charset.decodeBody`. Its content type may name the charset (`labelOf?`);
else the charset is guessed (`detect`).
-/

namespace Gazette.Charset

/-- The label in a content type: what stands behind the first `charset=`, without quotes. -/
def labelOf? (contentType : String) : Option String :=
  let lower := Unicode.lower contentType.toList
  ((Chars.splitAtChar ';' lower).findSome? fun part ↦
    Chars.after? "charset=".toList (Chars.trim part)).map fun label ↦
      String.ofList (Chars.trimBy (· == '\'') (Chars.trimBy (· == '"') label))

/-- The text of a body. A label that names no charset counts as none. -/
def decodeBody (bytes : List UInt8) (contentType : Option String) : String :=
  let named := (contentType.bind labelOf?).bind ofLabel?
  (named.getD (detect bytes)).decode bytes

end Gazette.Charset
