import Gazette.Json.Record
import Gazette.Text

/-!
# Keyword lists

Keywords written in one text with commas between them: `Text.keywords`. A keyword may still carry escapes such
as `\u6838` that its page did not resolve; `Text.unescape` resolves these all together or not at all.
-/

namespace Gazette.Text

/-- Text with its escapes resolved: what stands in double quotes when the text is put between them and
its own quotes get a backslash. A text that is no such string stays as it is. -/
def unescape (s : String) : String :=
  match Json.whole Json.text ('"' :: Chars.replace ['"'] ['\\', '"'] s.toList ++ ['"']) with
  | .ok resolved => resolved
  | .error _ => s

/-- A keyword with the escapes that it carries resolved by `unescape`. -/
def keyword (s : String) : String := if contains "\\u" s then unescape s else s

/-- The keywords of a list with commas: its pieces that are not blank, trimmed, each by `keyword`. -/
def keywords (s : String) : List String :=
  (((splitOn "," s).map trim).filter fun item ↦ !item.isEmpty).map keyword

end Gazette.Text
