import Gazette.Proofs.Article.Outline
import Gazette.Site.Registry

/-!
# What all known sites have in common

Each `Site` has rules of its own for linked data, head and body. `Site.Conventional` is what the rules of all
known sites keep to (`conventional_of_known`): those for linked data and for the head leave a draft with the
identifier of its own address, `IdentifiedBy`, and those for the body change nothing of the `Article.outline`
but the category. Only public television makes use of that exception (`outline_fromBody`).
`Registry.known_cases` goes through the known sites.
-/

namespace Gazette

/-- A fact about all of `knownSites`, one site at a time. -/
@[elab_as_elim]
theorem Registry.known_cases {motive : (site : Site) → site ∈ Registry.knownSites → Prop}
    (newsAgency : motive .newsAgency (by simp [knownSites]))
    (chinaTimes : motive .chinaTimes (by simp [knownSites]))
    (ettoday : motive .ettoday (by simp [knownSites]))
    (libertyTimes : motive .libertyTimes (by simp [knownSites]))
    (unitedDaily : motive .unitedDaily (by simp [knownSites]))
    (bbc : motive .bbc (by simp [knownSites]))
    (newYorkTimes : motive .newYorkTimes (by simp [knownSites]))
    (publicTelevision : motive .publicTelevision (by simp [knownSites]))
    (radioFrance : motive .radioFrance (by simp [knownSites]))
    (setn : motive .setn (by simp [knownSites]))
    (tvbs : motive .tvbs (by simp [knownSites]))
    (upMedia : motive .upMedia (by simp [knownSites]))
    (site : Site) (known : site ∈ Registry.knownSites) : motive site known := by
  have split := known
  simp only [knownSites, List.mem_cons, List.not_mem_nil, or_false] at split
  rcases split with rfl | rfl | rfl | rfl | rfl | rfl | rfl | rfl | rfl | rfl | rfl | rfl
  all_goals assumption

namespace Site

open Html Article

/-! ## Bodies -/

section Bodies

variable (body : Spot) (a : Article)

theorem outline_addAgencyBlock (found : Article × List String × Issues) (paragraph : Spot) :
    (addAgencyBlock found paragraph).1.outline = found.1.outline := by
  simp only [addAgencyBlock, outline_collectRelated, outline_append]

theorem outline_newsAgencyBody : (newsAgencyBody body a).1.outline = a.outline := by
  have blocks := foldl_keeps (fun found : Article × List String × Issues ↦ found.1.outline)
    outline_addAgencyBlock ((body.all "div.centralContent").filterMap (·.first? "div.paragraph"))
    (a, [], Table.empty)
  simp only [newsAgencyBody, outline_withAuthors, outline_addTags]
  exact blocks

theorem outline_chinaTimesBody : (chinaTimesBody body a).1.outline = a.outline := by
  unfold chinaTimesBody
  generalize body.first? "article.article-box" = box
  cases box with
  | none => rfl
  | some box =>
    simp only [outline_collectRelated, outline_append, outline_withAuthors]

/-- `addEttodayParagraph` keeps the `outline`, be the paragraph the byline or not. -/
theorem outline_addEttodayParagraph (text : String) :
    (addEttodayParagraph a text).outline = a.outline := by
  unfold addEttodayParagraph
  split <;> rfl

theorem outline_foldl_addEttodayParagraph (texts : List String) :
    (texts.foldl addEttodayParagraph a).outline = a.outline := by
  have paragraphs := foldl_keeps outline outline_addEttodayParagraph texts a
  exact paragraphs

theorem outline_ettodayBody : (ettodayBody body a).1.outline = a.outline := by
  simp only [ettodayBody]
  generalize body.first? "div#hot_area div.tab_content div.piece div.part_list_3" = part
  cases part with
  | none => simp only [outline_foldl_addEttodayParagraph]
  | some part => simp only [outline_collectRelated, outline_foldl_addEttodayParagraph]

theorem outline_libertyTimesBody : (libertyTimesBody body a).1.outline = a.outline := by
  simp only [libertyTimesBody, outline_collectRelated, outline_byline, outline_append]

theorem outline_unitedDailyBody : (unitedDaily.fromBody body a).1.outline = a.outline := by
  simp only [unitedDaily]
  split
  · simp only [unitedGlobalBody, outline_collectRelated, outline_withAuthors, outline_append]
  · simp only [unitedDomesticBody, outline_collectRelated, outline_append, outline_byline]

theorem outline_bbcBody : (bbcBody body a).1.outline = a.outline := by
  simp only [bbcBody, outline_collectRelatedTwice, outline_append, outline_byline]

theorem outline_newYorkTimesBody : (newYorkTimesBody body a).1.outline = a.outline := by
  simp only [newYorkTimesBody, outline_collectRelated, outline_append]

/-- The category that the path on a page of public television shows; empty if it shows none. -/
def shownCategory : String :=
  ((body.all "article nav[aria-label='breadcrumb'] ol.breadcrumb li.breadcrumb-item a")[1]?.map
    fun s ↦ Text.trim s.text).getD ""

/-- `publicTelevisionBody` keeps the `outline` but for the category, which is the `shownCategory` if there is
one. -/
theorem outline_publicTelevisionBody :
    (publicTelevisionBody body a).1.outline =
      { a.outline with category := firstText (shownCategory body) a.category } := by
  simp only [publicTelevisionBody, outline_collectRelatedTwice, shownCategory]
  generalize body.first? "article.row div.post-article" = post
  cases post with
  | none => simp only [outline]
  | some post => simp only [outline]

theorem outline_radioFranceBody : (radioFranceBody body a).1.outline = a.outline := by
  unfold radioFranceBody
  generalize body.first? "main article" = article
  cases article with
  | none => rfl
  | some article => simp only [outline_collectRelated, outline_append, outline_byline]

/-- `addSetnParagraph` keeps the `outline`, be the paragraph the byline or not. -/
theorem outline_addSetnParagraph (text : String) :
    (addSetnParagraph a text).outline = a.outline := by
  unfold addSetnParagraph
  split
  · rfl
  · dsimp only
    split <;> rfl

theorem outline_foldl_addSetnParagraph (texts : List String) :
    (texts.foldl addSetnParagraph a).outline = a.outline := by
  have paragraphs := foldl_keeps outline outline_addSetnParagraph texts a
  exact paragraphs

theorem outline_setnBody : (setnBody body a).1.outline = a.outline := by
  simp only [setnBody, outline_collectRelated, outline_foldl_addSetnParagraph]

theorem outline_upMediaBody : (upMediaBody body a).1.outline = a.outline := by
  simp only [upMediaBody, outline_collectRelated, outline_append, outline_byline]

end Bodies

/-! ## Conventions -/

/-- What the rules of a site leave alone. -/
structure Conventional (site : Site) : Prop where
  /-- Linked data are given the identifier of their address before the site changes the draft. -/
  afterLinkedData : ∀ (data : LinkedData) (draft : Article),
    (site.afterLinkedData data draft).link = draft.link ∧
      (site.afterLinkedData data draft).guid = draft.guid
  /-- A head leaves a draft with the identifier of its own address. -/
  fromHead : ∀ (head : Head) (pageUrl : String),
    (site.fromHead head pageUrl {}).1.IdentifiedBy site.guid
  /-- A body changes nothing of the outline but the category. -/
  fromBody : ∀ (body : Spot) (a : Article),
    (site.fromBody body a).1.outline =
      { a.outline with category := (site.fromBody body a).1.category }

theorem outline_butCategory {a b : Article} {category : String}
    (h : b.outline = { a.outline with category }) :
    b.outline = { a.outline with category := b.category } := by
  have own : b.category = category := congrArg Outline.category h
  rw [own]
  exact h

/-- `Site.fromBody` of a known site but public television keeps the `outline`. -/
theorem outline_fromBody {site : Site} (known : site ∈ Registry.knownSites)
    (other : site.name ≠ publicTelevision.name) (body : Spot) (a : Article) :
    (site.fromBody body a).1.outline = a.outline := by
  induction site, known using Registry.known_cases with
  | newsAgency => exact outline_newsAgencyBody body a
  | chinaTimes => exact outline_chinaTimesBody body a
  | ettoday => exact outline_ettodayBody body a
  | libertyTimes => exact outline_libertyTimesBody body a
  | unitedDaily => exact outline_unitedDailyBody body a
  | bbc => exact outline_bbcBody body a
  | newYorkTimes => exact outline_newYorkTimesBody body a
  | publicTelevision => exact absurd rfl other
  | radioFrance => exact outline_radioFranceBody body a
  | setn => exact outline_setnBody body a
  | tvbs => rfl
  | upMedia => exact outline_upMediaBody body a

/-- `Site.fromBody` of any known site keeps the `outline` but for the category. -/
theorem outline_fromBody_butCategory {site : Site} (known : site ∈ Registry.knownSites) (body : Spot)
    (a : Article) :
    (site.fromBody body a).1.outline =
      { a.outline with category := (site.fromBody body a).1.category } := by
  by_cases name : site.name = publicTelevision.name
  · induction site, known using Registry.known_cases with
    | publicTelevision => exact outline_butCategory (outline_publicTelevisionBody body a)
    | _ => exact absurd name (by decide)
  · exact outline_butCategory (outline_fromBody known name body a)

/-- All of `knownSites` are `Conventional`. -/
theorem conventional_of_known {site : Site} (known : site ∈ Registry.knownSites) :
    site.Conventional where
  afterLinkedData data draft := by
    induction site, known using Registry.known_cases with
    | tvbs => simp only [tvbs, and_self]
    | _ => exact ⟨rfl, rfl⟩
  fromHead head pageUrl := by
    have filled (guid : Url → String) := head.identifiedBy_fill pageUrl guid
    unfold IdentifiedBy at filled ⊢
    induction site, known using Registry.known_cases with
    | newsAgency => simpa only [newsAgency, Title.threePieces_link_guid] using filled _
    | chinaTimes => simpa only [chinaTimes, Title.leadingPieces_link_guid] using filled _
    | ettoday => simpa only [ettoday] using filled _
    | libertyTimes => simpa only [libertyTimes, Title.leadingPieces_link_guid] using filled _
    | unitedDaily => simpa only [unitedDaily] using filled _
    | bbc => simpa only [bbc, bbcHead] using filled _
    | newYorkTimes => simpa only [newYorkTimes, newYorkTimesHead] using filled _
    | publicTelevision => simpa only [publicTelevision] using filled _
    | radioFrance => simpa only [radioFrance, Title.whole] using filled _
    | setn => simpa only [setn] using filled _
    | tvbs => simpa only [tvbs] using filled _
    | upMedia => simpa only [upMedia] using filled _
  fromBody := outline_fromBody_butCategory known

end Site

end Gazette
