import Gazette.Proofs.Site.Conventions
import Mathlib.Tactic.SplitIfs

/-!
# Which source wins

A page speaks of its article in its linked data (`Site.linkedData`), in its head (`Site.headData`) and in its
body. The record says what the linked data say, or else what the head says, or else, for address and language,
what is known of the page as a whole: `Site.beforeBody`. The body comes last and has no say in any of this
(`Conventional.outline_extractFrom`); public television alone takes its category from there.
-/

namespace Gazette

open Html

theorem Article.firstText_eq (a b : String) : firstText a b = if a = "" then b else a := by
  simp only [firstText, String.isEmpty_iff]

/-- `Document.language?` is what the outermost element names, without white space around it; naming none is naming
the empty one. -/
theorem Html.Document.language?_getD (page : Document) :
    page.language?.getD "" = ((page.root?.bind (·.attribute? "lang")).map Text.trim).getD "" := by
  unfold language?
  cases (page.root?.bind (·.attribute? "lang")).map Text.trim with
  | none => rfl
  | some lang =>
    by_cases h : lang.isEmpty
    · simp [String.isEmpty_iff.1 h]
    · simp [h]

/-- `Document.spots` of a page whose elements stand in the order in which the reader met them are these elements
in that order. -/
theorem Html.Document.spots_of_pairwise (page : Document)
    (sorted : (Spot.among none [] page.children ++
      page.aside.flatMap fun n ↦ (Spot.within [] [] none n).drop 1).Pairwise
        fun a b ↦ a.serial ≤ b.serial) :
    page.spots = Spot.among none [] page.children ++
      page.aside.flatMap fun n ↦ (Spot.within [] [] none n).drop 1 :=
  List.mergeSort_of_pairwise (sorted.imp decide_eq_true)

namespace Site

variable (site : Site) (page : Document) (pageUrl : Url)

/-- The draft that the linked data of a page fill; the empty one if they cannot be read. -/
def linkedData (address : String) : Article :=
  match site.fromScripts ((page.all site.layout.linkedData).map Spot.text) address {} with
  | (draft, none) => draft
  | (_, some _) => {}

/-- The draft that the head of a page fills, as far as it comes; the empty one if there is no head. -/
def headData (address : String) : Article :=
  ((page.first? site.layout.head).map fun head ↦ (site.fromHeadAt head address {}).1).getD {}

theorem linkedDraft_fst (address : String) :
    (site.linkedDraft page address).1 = site.linkedData page address := by
  unfold linkedDraft linkedData
  dsimp only
  rcases site.fromScripts _ address {} with ⟨draft, _ | failure⟩ <;> rfl

theorem headDraft_fst (address : String) :
    (site.headDraft page address).1 = site.headData page address := by
  unfold headDraft headData
  cases page.first? site.layout.head <;> rfl

/-- The record of a page before its body is read: `linkedData` merged with `headData`, and completed. -/
def beforeBody : Article :=
  site.complete page pageUrl
    ((site.linkedData page pageUrl.href).merge (site.headData page pageUrl.href))

/-- `extractFrom` gives what the body, if there is one, makes of `beforeBody`. -/
theorem article_extractFrom :
    (site.extractFrom page pageUrl).article =
      match page.first? site.layout.body with
      | some body => (site.fromBody body (site.beforeBody page pageUrl)).1
      | none => site.beforeBody page pageUrl := by
  unfold extractFrom beforeBody
  rw [← linkedDraft_fst, ← headDraft_fst]
  cases page.first? site.layout.body <;> rfl

/-- Where neither `linkedData` nor `headData` names a language, `beforeBody` has that of the page. -/
theorem language_beforeBody :
    (site.beforeBody page pageUrl).language =
      if (site.linkedData page pageUrl.href).language ≠ "" then
        (site.linkedData page pageUrl.href).language
      else if (site.headData page pageUrl.href).language ≠ "" then
        (site.headData page pageUrl.href).language
      else ((page.root?.bind (·.attribute? "lang")).map Text.trim).getD "" := by
  rw [← Document.language?_getD]
  simp only [beforeBody, complete, Article.merge, Article.firstText_eq, String.isEmpty_iff]
  split_ifs <;> simp_all

variable {site}

/-- The record of a page has the `outline` of `beforeBody`, but for the category. -/
theorem Conventional.outline_extractFrom (h : site.Conventional) :
    (site.extractFrom page pageUrl).article.outline =
      { (site.beforeBody page pageUrl).outline with
        category := (site.extractFrom page pageUrl).article.category } := by
  rw [article_extractFrom]
  cases page.first? site.layout.body with
  | none => rfl
  | some body => exact h.fromBody body _

/-- But for public television the record of a page has the category of `beforeBody`. -/
theorem category_extractFrom (known : site ∈ Registry.knownSites)
    (other : site.name ≠ publicTelevision.name) :
    (site.extractFrom page pageUrl).article.category =
      (site.beforeBody page pageUrl).category := by
  rw [article_extractFrom]
  cases page.first? site.layout.body with
  | none => rfl
  | some body => exact congrArg Outline.category (outline_fromBody known other body _)

/-- In the record that `Site.extract` gives, `linkedData` wins over `headData`, and that over what is known of the
page as a whole. The body changes nothing of it, and the category only on public television. -/
theorem precedence_extract (known : site ∈ Registry.knownSites) (html : String) :
    let page := Document.parse html
    let linked := site.linkedData page pageUrl.href
    let head := site.headData page pageUrl.href
    let a := (site.extract html pageUrl).article
    a.title = (if linked.title = "" then head.title else linked.title) ∧
    a.description = (if linked.description = "" then head.description else linked.description) ∧
    a.published = linked.published.or head.published ∧
    a.language = (if linked.language ≠ "" then linked.language
      else if head.language ≠ "" then head.language
      else ((page.root?.bind (·.attribute? "lang")).map Text.trim).getD "") ∧
    a.link = some ((linked.link.or head.link).getD pageUrl) ∧
    (site.name ≠ publicTelevision.name →
      a.category = if linked.category = "" then head.category else linked.category) ∧
    ∀ (body : Spot) (b : Article),
      let c := (site.fromBody body b).1
      c.title = b.title ∧ c.link = b.link ∧ c.description = b.description ∧
      c.language = b.language ∧ c.guid = b.guid ∧ c.published = b.published := by
  intro page linked head a
  have conventional := conventional_of_known known
  have outline : a.outline = _ := conventional.outline_extractFrom page pageUrl
  have language : a.language = _ := congrArg Outline.language outline
  have link : a.link = _ := congrArg Outline.link outline
  refine ⟨?_, ?_, congrArg Outline.published outline,
    language.trans (language_beforeBody site page pageUrl), link, ?_, ?_⟩
  · rw [← Article.firstText_eq]
    exact congrArg Outline.title outline
  · rw [← Article.firstText_eq]
    exact congrArg Outline.description outline
  · intro other
    rw [← Article.firstText_eq]
    exact category_extractFrom page pageUrl known other
  · intro body b
    have kept := conventional.fromBody body b
    exact ⟨congrArg Outline.title kept, congrArg Outline.link kept,
      congrArg Outline.description kept, congrArg Outline.language kept,
      congrArg Outline.guid kept, congrArg Outline.published kept⟩

/-- A page that has its title in the head and its description in the linked data. -/
def twoSources : String :=
  "<title>甲</title><script type=application/ld+json>" ++
    "\x7b\"@type\":\"NewsArticle\",\"description\":\"乙\"\x7d</script>"

/-- The address of a page of Radio France. -/
def radioPage : Url :=
  ⟨"https".toList, some ⟨[], none, some (.name "www.rfi.fr".toList), none⟩, "/tw/".toList, none, none⟩

/-- The record of `twoSources` has its title from the head and its description from the linked data. -/
theorem precedence_extract_twoSources :
    radioFrance ∈ Registry.knownSites ∧
      (radioFrance.extract twoSources radioPage).article.title = "甲" ∧
      (radioFrance.extract twoSources radioPage).article.description = "乙" := by
  have known : radioFrance ∈ Registry.knownSites := by simp [Registry.knownSites]
  have spots := Document.spots_of_pairwise (Document.parse twoSources) (by decide +kernel)
  obtain ⟨title, description, -⟩ := precedence_extract radioPage known twoSources
  refine ⟨known, title.trans ?_, description.trans ?_⟩
  · simp only [linkedData, headData, Document.all, Document.first?, spots]
    decide +kernel
  · simp only [linkedData, headData, Document.all, Document.first?, spots]
    decide +kernel

end Site

end Gazette
