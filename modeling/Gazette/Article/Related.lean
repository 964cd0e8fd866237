import Gazette.Article.Basic
import Gazette.Failure.Issues
import Gazette.Selector.Find
import Gazette.Url.Reader

/-!
# Related articles

The links to related articles on a page, and the identifiers behind them: `Article.collectRelated`. A link that
`Url.resolve` refuses becomes an issue under its text, and the others are added all the same.
-/

namespace Gazette.Article

open Html

/-- The record in `found` with the article behind `href` by `addRelated`, or the issues in it with the link. -/
def relate (guid : Url → String) (found : Article × Issues) (href : String) : Article × Issues :=
  match Url.resolve found.1.link href with
  | .ok url => (found.1.addRelated (guid url), found.2)
  | .error e =>
    (found.1,
      found.2.insert href (.of .relatedLink href "ParseBody" (some (.badHref href e))))

/-- The links below `root` that the selector `css` means and that `keep` takes. -/
def hrefs (root : Spot) (css : String) (keep : String → Bool) : List String :=
  ((root.all css).filterMap (·.attribute? "href")).filter keep

/-- The record `a` with the articles behind all `hrefs`, and the links that lead nowhere as issues. `guid` gives
the identifier of an address. -/
def collectRelated (a : Article) (guid : Url → String) (root : Spot) (css : String)
    (keep : String → Bool) : Article × Issues :=
  (hrefs root css keep).foldl (relate guid) (a, Table.empty)

end Gazette.Article
