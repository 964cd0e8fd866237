import Gazette.Proofs.Article.WellFormed
import Gazette.Proofs.Site.Drafts

/-!
# Records are well-formed

Linked data and head bring no paragraphs, so the record made of them is `WellFormed`: `wellFormed_beforeBody`.
From there on each site reads the body in its own way, but takes nothing into the paragraphs that it has not
cleaned and found not to be empty: `wellFormed_fromBody`. Hence all records are well-formed, whatever the page:
`wellFormed_extract`.
-/

namespace Gazette

open Html

namespace Body

/-- `Body.texts` are `Text.Neat` if they are cleaned by something that trims. -/
theorem neat_of_mem_texts {clean : String → String} (trims : ∀ s, Chars.Trimmed (clean s).toList)
    {root : Spot} {css t : String} (h : t ∈ texts clean root css) : Text.Neat t :=
  Text.neat_of_mem_filter (fun s : Spot ↦ trims s.text) h

/-- `Body.trimmed` are `Text.Neat`. -/
theorem neat_of_mem_trimmed {root : Spot} {css t : String} (h : t ∈ trimmed root css) :
    Text.Neat t :=
  neat_of_mem_texts Text.trimmed_trim h

/-- `Body.paragraphs` are `Text.Neat`. -/
theorem neat_of_mem_paragraphs {root : Spot} {css t : String} (h : t ∈ paragraphs root css) :
    Text.Neat t :=
  neat_of_mem_texts Text.trimmed_cleanParagraph h

theorem ne_empty_of_isStory {s : String} (h : isStory s) : s ≠ "" := by
  rintro rfl
  exact absurd h (by decide)

end Body

namespace Site

open Article

/-! ## Bodies -/

section Bodies

variable (body : Spot) {a : Article} (h : a.WellFormed)
include h

theorem wellFormed_addAgencyBlock (tags : List String) (issues : Issues) (paragraph : Spot) :
    (addAgencyBlock (a, tags, issues) paragraph).1.WellFormed := by
  simp only [addAgencyBlock]
  refine WellFormed.collectRelated _ _ (h.append fun p hp ↦ ?_) _ _
  exact Body.neat_of_mem_trimmed hp

theorem wellFormed_newsAgencyBody : (newsAgencyBody body a).1.WellFormed := by
  have blocks : (((body.all "div.centralContent").filterMap (·.first? "div.paragraph")).foldl
      addAgencyBlock (a, [], Table.empty)).1.WellFormed :=
    List.foldlRecOn
      (motive := fun found : Article × List String × Issues ↦ found.1.WellFormed) _ _ h
      fun found kept paragraph _ ↦ wellFormed_addAgencyBlock kept found.2.1 found.2.2 paragraph
  simp only [newsAgencyBody]
  exact (blocks.addTags _).withAuthors _

theorem wellFormed_chinaTimesBody : (chinaTimesBody body a).1.WellFormed := by
  unfold chinaTimesBody
  generalize body.first? "article.article-box" = box
  cases box with
  | none => exact h
  | some box =>
    refine WellFormed.collectRelated _ _ ((h.withAuthors _).append fun p hp ↦ ?_) _ _
    exact Body.neat_of_mem_trimmed hp

/-- `addEttodayParagraph` keeps a record `WellFormed`, be the paragraph the byline or not. -/
theorem wellFormed_addEttodayParagraph {text : String} (neat : Text.Neat text) :
    (addEttodayParagraph a text).WellFormed := by
  unfold addEttodayParagraph
  split
  · exact h.withAuthors _
  · refine h.append fun p hp ↦ ?_
    obtain rfl := List.mem_singleton.1 hp
    exact neat

omit h in
/-- `ettodayParagraphs` are `Text.Neat`. -/
theorem neat_of_mem_ettodayParagraphs {t : String} (ht : t ∈ ettodayParagraphs body) :
    Text.Neat t := by
  obtain ⟨mem, story⟩ := List.mem_filter.1 ht
  obtain ⟨raw, -, rfl⟩ := List.mem_map.1 mem
  exact ⟨Body.ne_empty_of_isStory story, Text.trimmed_trim raw⟩

theorem wellFormed_foldl_addEttodayParagraph :
    ((ettodayParagraphs body).foldl addEttodayParagraph a).WellFormed :=
  List.foldlRecOn (motive := WellFormed) _ _ h fun _ kept _ mem ↦
    wellFormed_addEttodayParagraph kept (neat_of_mem_ettodayParagraphs body mem)

theorem wellFormed_ettodayBody : (ettodayBody body a).1.WellFormed := by
  have paragraphs := wellFormed_foldl_addEttodayParagraph body h
  simp only [ettodayBody]
  generalize body.first? "div#hot_area div.tab_content div.piece div.part_list_3" = part
  cases part with
  | none =>
    dsimp only
    exact paragraphs
  | some part =>
    dsimp only
    exact paragraphs.collectRelated _ _ _ _

omit h in
/-- The paragraphs of Liberty Times are `Text.Neat`, on news pages and on sports pages. -/
theorem neat_of_mem_libertyParagraphs {t : String}
    (ht : t ∈ libertySportsParagraphs body ∨ t ∈ libertyNewsParagraphs body) : Text.Neat t := by
  have trims (p : Spot) : Chars.Trimmed (Text.cleanParagraph p.text).toList :=
    Text.trimmed_cleanParagraph p.text
  rcases ht with ht | ht <;> exact Text.neat_of_mem_filter trims ht

theorem wellFormed_libertyTimesBody : (libertyTimesBody body a).1.WellFormed := by
  simp only [libertyTimesBody]
  refine WellFormed.collectRelated _ _ ((h.append fun p hp ↦ ?_).byline _) _ _
  refine neat_of_mem_libertyParagraphs body ?_
  split at hp
  · exact .inl hp
  · exact .inr hp

theorem wellFormed_unitedDailyBody : (unitedDaily.fromBody body a).1.WellFormed := by
  have neat {css p : String} (hp : p ∈ Body.paragraphs body css) : Text.Neat p :=
    Body.neat_of_mem_paragraphs hp
  simp only [unitedDaily]
  split
  · simp only [unitedGlobalBody]
    exact WellFormed.collectRelated _ _ ((h.append fun p hp ↦ neat hp).withAuthors _) _ _
  · simp only [unitedDomesticBody]
    exact WellFormed.collectRelated _ _ ((h.byline _).append fun p hp ↦ neat hp) _ _

theorem wellFormed_bbcBody : (bbcBody body a).1.WellFormed := by
  simp only [bbcBody]
  refine WellFormed.collectRelatedTwice _ _ ((h.byline _).append fun p hp ↦ ?_) _ _ _
  exact Body.neat_of_mem_paragraphs hp

theorem wellFormed_newYorkTimesBody : (newYorkTimesBody body a).1.WellFormed := by
  simp only [newYorkTimesBody]
  refine WellFormed.collectRelated _ _ (h.append fun p hp ↦ ?_) _ _
  exact Text.neat_of_mem_filter (fun p : Spot ↦ Text.trimmed_cleanParagraph p.text) hp

theorem wellFormed_publicTelevisionBody : (publicTelevisionBody body a).1.WellFormed := by
  simp only [publicTelevisionBody]
  refine WellFormed.collectRelatedTwice _ _ ?_ _ _ _
  generalize firstText _ a.category = category
  generalize body.first? "article.row div.post-article" = post
  cases post with
  | none => exact h.withCategory category
  | some post =>
    refine (h.withCategory category).withContent fun p hp ↦ ?_
    exact Body.neat_of_mem_texts Text.trimmed_cleanParagraphSpaced hp

theorem wellFormed_radioFranceBody : (radioFranceBody body a).1.WellFormed := by
  unfold radioFranceBody
  generalize body.first? "main article" = article
  cases article with
  | none => exact h
  | some article =>
    refine WellFormed.collectRelated _ _ ((h.byline _).append fun p hp ↦ ?_) _ _
    exact Body.neat_of_mem_paragraphs hp

/-- `addSetnParagraph` keeps a record `WellFormed`, be the paragraph the byline or not. -/
theorem wellFormed_addSetnParagraph (text : String) : (addSetnParagraph a text).WellFormed := by
  unfold addSetnParagraph
  split
  · exact h.withAuthors _
  · dsimp only
    split
    · exact h
    next full =>
      simp only [Bool.or_eq_true, not_or, String.isEmpty_iff] at full
      refine h.append fun p hp ↦ ?_
      obtain rfl := List.mem_singleton.1 hp
      exact ⟨full.1, Text.trimmed_collapseSpaces_trim _⟩

theorem wellFormed_setnBody : (setnBody body a).1.WellFormed := by
  simp only [setnBody]
  refine WellFormed.collectRelated _ _ ?_ _ _
  exact List.foldlRecOn _ _ h fun _ kept text _ ↦ wellFormed_addSetnParagraph kept text

theorem wellFormed_tvbsBody : (tvbs.fromBody body a).1.WellFormed :=
  h.append fun _ hp ↦ Text.neat_of_mem_splitLines hp

theorem wellFormed_upMediaBody : (upMediaBody body a).1.WellFormed := by
  simp only [upMediaBody]
  refine WellFormed.collectRelated _ _ ((h.byline _).append fun p hp ↦ ?_) _ _
  exact Body.neat_of_mem_trimmed (List.mem_filter.1 hp).1

end Bodies

/-! ## Records -/

variable {site : Site} (known : site ∈ Registry.knownSites)
include known

/-- `Site.fromBody` of a known site keeps a record `WellFormed`. -/
theorem wellFormed_fromBody (body : Spot) {a : Article} (h : a.WellFormed) :
    (site.fromBody body a).1.WellFormed := by
  induction site, known using Registry.known_cases with
  | newsAgency => simpa only [newsAgency] using wellFormed_newsAgencyBody body h
  | chinaTimes => simpa only [chinaTimes] using wellFormed_chinaTimesBody body h
  | ettoday => simpa only [ettoday] using wellFormed_ettodayBody body h
  | libertyTimes => simpa only [libertyTimes] using wellFormed_libertyTimesBody body h
  | unitedDaily => exact wellFormed_unitedDailyBody body h
  | bbc => simpa only [bbc] using wellFormed_bbcBody body h
  | newYorkTimes => simpa only [newYorkTimes] using wellFormed_newYorkTimesBody body h
  | publicTelevision => simpa only [publicTelevision] using wellFormed_publicTelevisionBody body h
  | radioFrance => simpa only [radioFrance] using wellFormed_radioFranceBody body h
  | setn => simpa only [setn] using wellFormed_setnBody body h
  | tvbs => exact wellFormed_tvbsBody body h
  | upMedia => simpa only [upMedia] using wellFormed_upMediaBody body h

/-- `Site.beforeBody` of a known site is `WellFormed`. -/
theorem wellFormed_beforeBody (page : Document) (pageUrl : Url) :
    (site.beforeBody page pageUrl).WellFormed := by
  have merged := wellFormed_merge (content_linkedData page pageUrl.href known)
    (content_headData page pageUrl.href known)
  exact merged.congr rfl rfl rfl

/-- The record that `Site.extract` of a known site gives is `WellFormed`, whatever the page. -/
theorem wellFormed_extract (html : String) (pageUrl : Url) :
    (site.extract html pageUrl).article.WellFormed := by
  have before := wellFormed_beforeBody known (Document.parse html) pageUrl
  unfold extract
  rw [article_extractFrom]
  cases (Document.parse html).first? site.layout.body with
  | none => exact before
  | some body => exact wellFormed_fromBody known body before

omit known

/-- A page of SET News with keywords out of order, a byline, a caption, an empty and a blank paragraph, and a
paragraph with white space around and in it. -/
def unevenPage : String :=
  "<meta name=news_keywords itemprop=keywords content='b,a,,b'>" ++
    "<div id=ckuse><article><div><p>甲<p>▲圖<p><p>\n<p> 一  二 </div></article></div>"

/-- The record of `unevenPage` is `WellFormed`, and that is not because its lists are empty. -/
theorem wellFormed_extract_unevenPage :
    setn ∈ Registry.knownSites ∧
      (setn.extract unevenPage frontPage).article.WellFormed ∧
      (setn.extract unevenPage frontPage).article.tags = ["a", "b"] ∧
      (setn.extract unevenPage frontPage).article.content = ["一 二"] := by
  have known : setn ∈ Registry.knownSites := by simp [Registry.knownSites]
  have spots := Document.spots_of_pairwise (Document.parse unevenPage) (by decide +kernel)
  refine ⟨known, wellFormed_extract known unevenPage frontPage, ?_⟩
  simp only [extract, article_extractFrom, beforeBody, linkedData, headData, Document.first?,
    Document.all, spots]
  decide +kernel

end Site

end Gazette
