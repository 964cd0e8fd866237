import Gazette.Article.Basic

/-!
# Articles at a glance

`Article.display`: a record in eleven short lines.
-/

namespace Gazette.Article

/-- The first fifty characters of a text and how many are left out, by `Text.truncate`. -/
def excerpt (s : String) : String :=
  match Text.truncate 50 s with
  | (head, 0) => head
  | (head, rest) => head ++ " (..." ++ Number.decimalText rest ++ " words)"

/-- A record at a glance. -/
def display (a : Article) : String :=
  "Item:\n - Title       : " ++ a.title ++
    "\n - Author      : " ++ Text.joinWith ", " a.authors ++
    "\n - Link        : " ++ a.linkText ++
    "\n - Description : " ++ excerpt a.description ++
    "\n - Category    : " ++ a.category ++
    "\n - GUID        : " ++ a.guid ++
    "\n - Language    : " ++ a.language ++
    "\n - PubDate     : " ++
      (match a.published with
        | some t => String.ofList t.toDisplay
        | none => "") ++
    "\n - Tags        : " ++ Text.joinWith ", " a.tags ++
    "\n - Content     : " ++ excerpt (Text.concat a.content) ++
    "\n - Related GUID: " ++ Text.joinWith ", " a.related ++ "\n"

end Gazette.Article
