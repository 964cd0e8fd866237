import Gazette.Head.Basic
import Gazette.Site.Body
import Gazette.Site.Title

/-!
# What a body leaves alone

Linked data and head say what an article is: its title, address, description, language, category, identifier and
date. The body of a page adds authors, paragraphs, tags and related articles. `Article.outline` is what a body
has no say in, and the operations that the rules for bodies are made of (`append`, `byline`, `addTags`,
`addRelated`, `collectRelated`) keep it. The rules for titles, in turn, leave `link` and `guid` of a draft
alone, and `Head.fill` gives a draft the identifier of its own address: `IdentifiedBy`.
-/

namespace Gazette

/-- What each step of a fold keeps, the whole fold keeps. -/
theorem foldl_keeps {α β γ : Type} (view : β → γ) {f : β → α → β}
    (step : ∀ b x, view (f b x) = view b) (l : List α) (b : β) :
    view (l.foldl f b) = view b := by
  induction l generalizing b with
  | nil => rfl
  | cons x l ih => exact (ih (f b x)).trans (step b x)

/-- The fields of an `Article` that linked data and head fill. -/
structure Outline where
  /-- The title. -/
  title : String
  /-- The address. -/
  link : Option Url
  /-- The description. -/
  description : String
  /-- The language. -/
  language : String
  /-- The category. -/
  category : String
  /-- The identifier. -/
  guid : String
  /-- When it was published. -/
  published : Option Time.Instant

namespace Article

/-- The `Outline` of a record. -/
def outline (a : Article) : Outline :=
  ⟨a.title, a.link, a.description, a.language, a.category, a.guid, a.published⟩

variable (a : Article) (guid : Url → String) (root : Html.Spot)

/-! ## Operations on bodies -/

@[simp] theorem outline_withAuthors (authors : List String) :
    { a with authors }.outline = a.outline := rfl

@[simp] theorem outline_append (paragraphs : List String) :
    (a.append paragraphs).outline = a.outline := rfl

@[simp] theorem outline_byline (authors : List String) :
    (a.byline authors).outline = a.outline := rfl

@[simp] theorem outline_addTags (tags : List String) : (a.addTags tags).outline = a.outline := rfl

@[simp] theorem outline_addRelated (id : String) : (a.addRelated id).outline = a.outline := by
  unfold addRelated
  split <;> rfl

/-- `relate` keeps the `outline`, whether the link resolves or not. -/
theorem outline_relate (found : Article × Issues) (href : String) :
    (relate guid found href).1.outline = found.1.outline := by
  unfold relate
  cases Url.resolve found.1.link href with
  | ok url => exact outline_addRelated found.1 (guid url)
  | error e => rfl

@[simp] theorem outline_collectRelated (css : String) (keep : String → Bool) :
    (a.collectRelated guid root css keep).1.outline = a.outline := by
  have links := foldl_keeps (fun found : Article × Issues ↦ found.1.outline) (outline_relate guid)
    (hrefs root css keep) (a, Table.empty)
  exact links

@[simp] theorem outline_collectRelatedTwice (css more : String) (keep : String → Bool) :
    (a.collectRelatedTwice guid root css more keep).1.outline = a.outline := by
  simp only [collectRelatedTwice, outline_collectRelated]

/-! ## Identifiers -/

/-- A record bears as `guid` the identifier of its own `link`, and none if it has no `link`. -/
def IdentifiedBy (guid : Url → String) (a : Article) : Prop := a.guid = (a.link.map guid).getD ""

theorem identifiedBy_empty : ({} : Article).IdentifiedBy guid := rfl

end Article

/-- `Head.fill` identifies a draft by the address that the head names; an address that cannot be read leaves both
out. -/
theorem Head.identifiedBy_fill (h : Head) (pageUrl : String) (guid : Url → String) :
    (h.fill pageUrl guid {}).1.IdentifiedBy guid := by
  unfold Head.fill
  cases h.link? pageUrl with
  | ok link => cases link <;> rfl
  | error failure => rfl

namespace Title

variable (mark title : String) (draft : Article)

/-- `Title.threePieces` keeps `link` and `guid`. -/
theorem threePieces_link_guid :
    (threePieces mark title draft).link = draft.link ∧
      (threePieces mark title draft).guid = draft.guid := by
  unfold threePieces
  split <;> exact ⟨rfl, rfl⟩

/-- `Title.leadingPieces` keeps `link` and `guid`. -/
theorem leadingPieces_link_guid :
    (leadingPieces mark title draft).link = draft.link ∧
      (leadingPieces mark title draft).guid = draft.guid := by
  unfold leadingPieces
  split <;> exact ⟨rfl, rfl⟩

end Title

end Gazette
