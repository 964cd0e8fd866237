import Gazette.Article.Related
import Gazette.Html.Edge

/-!
# Reading bodies

What the rules for bodies are made of: the texts of elements, cleaned in one way or another (`Body.texts`), and
what goes into a record (`Article.append`, `Article.byline`, `Article.collectRelatedTwice`).
-/

namespace Gazette.Body

open Html

/-- The texts of the elements below `root` that the selector `css` means, each through `clean`, without the empty
ones. -/
def texts (clean : String → String) (root : Spot) (css : String) : List String :=
  ((root.all css).map fun s ↦ clean s.text).filter fun t ↦ !t.isEmpty

/-- `texts` that are trimmed. -/
def trimmed : Spot → String → List String := texts Text.trim

/-- `texts` that are brought to one line each by `Text.cleanParagraph`. -/
def paragraphs : Spot → String → List String := texts Text.cleanParagraph

/-- Whether a text is neither empty nor a caption or a link to another story. -/
def isStory (s : String) : Bool :=
  match s.toList with
  | [] => false
  | c :: _ => c != '▸' && c != '▲'

end Gazette.Body

namespace Gazette.Article

/-- The record `a` with more paragraphs. -/
def append (a : Article) (paragraphs : List String) : Article :=
  { a with content := a.content ++ paragraphs }

/-- The record `a` by other authors, if there are any. -/
def byline (a : Article) (authors : List String) : Article :=
  { a with authors := firstList authors a.authors }

/-- The record `a` with the articles behind the links that either of two selectors means: `collectRelated` by the
one and then by the other. -/
def collectRelatedTwice (a : Article) (guid : Url → String) (root : Html.Spot) (css more : String)
    (keep : String → Bool) : Article × Issues :=
  let (a, issues) := a.collectRelated guid root css keep
  let (a, others) := a.collectRelated guid root more keep
  (a, issues.extend others)

end Gazette.Article
