import Gazette.Article.Basic
import Gazette.Text

/-!
# Titles

The title of a page names the article first, and then often its category and the site, with a mark between
them. Each rule says what of it goes into a draft.
-/

namespace Gazette.Title

/-- The whole title. -/
def whole (title : String) (draft : Article) : Article := { draft with title := Text.trim title }

/-- The first of at least `least` pieces, or the whole title. -/
def firstOf (least : Nat) (mark title : String) : String :=
  let pieces := Text.splitOn mark title
  if least ≤ pieces.length then Text.trim (pieces.headD "") else Text.trim title

/-- The first of two pieces, or the whole title if there are more or fewer. -/
def firstOfTwo (mark title : String) : String :=
  match Text.splitOn mark title with
  | [first, _] => Text.trim first
  | _ => Text.trim title

/-- The title, trimmed, without `tail` at its end. -/
def without (tail title : String) : String := Text.dropTail tail (Text.trim title)

/-- Title and category out of three pieces, or the whole title. -/
def threePieces (mark title : String) (draft : Article) : Article :=
  match Text.splitOn mark title with
  | [first, category, _] => { draft with title := Text.trim first, category := Text.trim category }
  | _ => whole title draft

/-- The first piece, and the second one as category if there is one. -/
def leadingPieces (mark title : String) (draft : Article) : Article :=
  match Text.splitOn mark title with
  | first :: category :: _ =>
    { draft with title := Text.trim first, category := Text.trim category }
  | _ => whole title draft

end Gazette.Title
