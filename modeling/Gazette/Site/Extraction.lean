import Gazette.Html.Reader
import Gazette.Site.Basic

/-!
# Reading a page

Linked data and head of a page each fill a draft (`Site.linkedDraft`, `Site.headDraft`). The record made of the
two by `Article.merge` is completed from the address of the page (`Site.complete`) and from its body
(`Site.fromBody`). Nothing that is wrong with a page ends `Site.extract`: it becomes an issue.
-/

namespace Gazette

/-- A record, and the issues that came up while it was made. -/
structure Extraction where
  /-- The record. -/
  article : Article
  /-- The issues. -/
  issues : Issues

namespace Site

open Html

/-- The draft of the linked data of a page, by `fromScripts`, and the failure to make it. That a page has no
linked data is no failure. -/
def linkedDraft (site : Site) (page : Document) (pageUrl : String) : Article × Option Failure :=
  let scripts := (page.all site.layout.linkedData).map Spot.text
  match site.fromScripts scripts pageUrl {} with
  | (draft, none) => (draft, none)
  | (_, some failure) =>
    ({}, if failure.kind = .linkedDataNotFound then none else some failure)

/-- The draft of the head of a page, by `fromHeadAt`, and the failure to complete it. A page without a head leaves
the draft empty. -/
def headDraft (site : Site) (page : Document) (pageUrl : String) : Article × Option Failure :=
  match page.first? site.layout.head with
  | some head => site.fromHeadAt head pageUrl {}
  | none => ({}, none)

/-- The record `a` with what it lacks from the page as a whole: the language of the page, its address, and the
identifier of its address. -/
def complete (site : Site) (page : Document) (pageUrl : Url) (a : Article) : Article :=
  let link := a.link.getD pageUrl
  { a with
    language := if a.language.isEmpty then page.language?.getD "" else a.language
    link := some link
    guid := if a.guid.isEmpty then site.guid link else a.guid }

/-- Issues with a failure, if there is one. -/
def note (issues : Issues) (key : String) : Option Failure → Issues
  | some failure => issues.insert key failure
  | none => issues

/-- The record of a page that has been read: `linkedDraft` merged with `headDraft`, completed, and then what the
body adds. -/
def extractFrom (site : Site) (page : Document) (pageUrl : Url) : Extraction :=
  let address := pageUrl.href
  let (linked, linkedFailure) := site.linkedDraft page address
  let (head, headFailure) := site.headDraft page address
  let issues := note (note Table.empty "jsonld" linkedFailure) "meta" headFailure
  let a := site.complete page pageUrl (linked.merge head)
  match page.first? site.layout.body with
  | some body =>
    let (a, more) := site.fromBody body a
    ⟨a, issues.extend more⟩
  | none =>
    ⟨a, issues.insert "body"
      (.of .extract address "ParseBody" (some (.noElement site.layout.body)))⟩

/-- The record of the page `html`, read by `Document.parse`. -/
def extract (site : Site) (html : String) (pageUrl : Url) : Extraction :=
  site.extractFrom (Document.parse html) pageUrl

end Site

end Gazette
