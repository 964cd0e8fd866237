import Gazette.Proofs.Article.Links
import Gazette.Proofs.Site.Conventions

/-!
# Which links a site follows

Each site looks for the links to related articles in its own places. `LinkRule` says where that is,
`Site.followed` which links on a page that are, and `ofLinks_fromBody` that the issues of `Site.fromBody` are
those of these links and no others.
-/

namespace Gazette

open Html

/-- Where a site looks for links to related articles. -/
structure LinkRule where
  /-- The elements below which the links stand. -/
  roots : Spot → List Spot := fun body ↦ [body]
  /-- The selectors of the links. They may depend on the host of the article. -/
  css : Option String → List String
  /-- Which links are followed. -/
  keep : String → Bool := fun _ ↦ true

/-- The links that a rule means on a page, given the host of the article. -/
def LinkRule.links (rule : LinkRule) (body : Spot) (source : Option String) : List String :=
  (rule.roots body).flatMap fun root ↦
    (rule.css source).flatMap fun css ↦ Article.hrefs root css rule.keep

namespace Site

open Article

/-! ## Rules -/

/-- The links of the Central News Agency stand in its blocks. -/
def newsAgencyLinks : LinkRule where
  roots body := (body.all "div.centralContent").filterMap (·.first? "div.paragraph")
  css _ := ["div.moreArticle a.moreArticle-link"]
  keep := Text.contains "www.cna.com.tw/news"

/-- The links of China Times stand in the text of an article. -/
def chinaTimesLinks : LinkRule where
  roots body := (body.first? "article.article-box").toList
  css _ := ["div.article-body[itemprop='articleBody'] div.promote-word a"]

/-- The links of ETtoday stand in the first list of what is read most. -/
def ettodayLinks : LinkRule where
  roots body := (body.first? "div#hot_area div.tab_content div.piece div.part_list_3").toList
  css _ := ["h3 a"]

/-- The links of Liberty Times. -/
def libertyTimesLinks : LinkRule where
  css _ := ["div.content div.related[data-desc='相關新聞'] a[data-desc]"]

/-- The links of United Daily News are others on its world pages. -/
def unitedDailyLinks : LinkRule where
  css source :=
    if source = some unitedGlobal then ["div#story_also dt a[data-slotname='list_推薦閱讀']"]
    else ["section.more-news div.context-box__content div.story-list__news " ++
      "div.story-list__text a"]

/-- The links of the BBC. -/
def bbcLinks : LinkRule where
  css _ := ["main[role='main'] div.etpldq00 ul li a.focusIndicatorReducedWidth",
    "section[data-e2e='related-content-heading'] ul li a"]

/-- The links of the New York Times. -/
def newYorkTimesLinks : LinkRule where
  css _ := ["main.main div.article-area div.article-footer div.related-cont ul.refer-list " ++
    "li.article-refer div.refer-list-item a"]

/-- The links of public television. -/
def publicTelevisionLinks : LinkRule where
  css _ := ["div.issue-cords-1 div.d-flex div.issue-item-title h6 a",
    "div.relative-news-list-content h4.m-0 a"]
  keep := isPublicTelevisionArticle

/-- The links of Radio France are the tags of an article. -/
def radioFranceLinks : LinkRule where
  roots body := (body.first? "main article").toList
  css _ := ["div.t-content__tags ul.m-tags-list li.m-tags-list__tag a"]

/-- The links of SET News. -/
def setnLinks : LinkRule where
  css _ := ["div.tagNewsArea div.tagNewsBox div.tagNews a.gt"]

/-- The links of Up Media. -/
def upMediaLinks : LinkRule where
  css _ := ["div#news-info div.related ul li > a"]

/-- The rules of the sites that follow links, under their names. -/
def linkRules : List (String × LinkRule) :=
  [(newsAgency.name, newsAgencyLinks), (chinaTimes.name, chinaTimesLinks),
    (ettoday.name, ettodayLinks), (libertyTimes.name, libertyTimesLinks),
    (unitedDaily.name, unitedDailyLinks), (bbc.name, bbcLinks),
    (newYorkTimes.name, newYorkTimesLinks), (publicTelevision.name, publicTelevisionLinks),
    (radioFrance.name, radioFranceLinks), (setn.name, setnLinks), (upMedia.name, upMediaLinks)]

/-- The links to related articles that a site follows on a page by its rule among `linkRules`, given the host of
the article. -/
def followed (site : Site) (body : Spot) (source : Option String) : List String :=
  match linkRules.lookup site.name with
  | some rule => rule.links body source
  | none => []

/-! ## Issues of bodies -/

section Bodies

variable (body : Spot) (a : Article)

/-- `addAgencyBlock` brings the issues of the links in the block. -/
theorem ofLinks_addAgencyBlock {found : Article × List String × Issues} {links : List String}
    (h : found.2.2.OfLinks found.1.link links) (block : Spot) :
    (addAgencyBlock found block).2.2.OfLinks found.1.link
      (links ++ hrefs block "div.moreArticle a.moreArticle-link" newsAgencyLinks.keep) := by
  simp only [addAgencyBlock, newsAgencyLinks]
  refine h.extend ?_
  refine ofLinks_collectRelated _ ?_ _ _ _
  rfl

theorem link_addAgencyBlock (found : Article × List String × Issues) (block : Spot) :
    (addAgencyBlock found block).1.link = found.1.link :=
  link_eq_of_outline_eq (outline_addAgencyBlock found block)

theorem ofLinks_foldl_addAgencyBlock (found : Article × List String × Issues) {links : List String}
    (h : found.2.2.OfLinks found.1.link links) (blocks : List Spot) :
    (blocks.foldl addAgencyBlock found).2.2.OfLinks found.1.link
      (links ++ blocks.flatMap fun root ↦
        hrefs root "div.moreArticle a.moreArticle-link" newsAgencyLinks.keep) := by
  induction blocks generalizing found links with
  | nil => simpa using h
  | cons block rest ih =>
    have step := ofLinks_addAgencyBlock h block
    have link := link_addAgencyBlock found block
    rw [List.foldl_cons, List.flatMap_cons]
    generalize addAgencyBlock found block = next at step link ⊢
    rw [← link, ← List.append_assoc]
    rw [← link] at step
    exact ih next step

theorem ofLinks_newsAgencyBody :
    (newsAgencyBody body a).2.OfLinks a.link (newsAgencyLinks.links body a.source) := by
  have blocks := ofLinks_foldl_addAgencyBlock (a, [], Table.empty) Issues.ofLinks_nil
    (newsAgencyLinks.roots body)
  simp only [List.nil_append] at blocks
  simp only [newsAgencyBody, LinkRule.links]
  simp only [newsAgencyLinks, List.flatMap_singleton] at blocks ⊢
  generalize List.foldl addAgencyBlock _ _ = found at blocks ⊢
  exact blocks

theorem ofLinks_chinaTimesBody :
    (chinaTimesBody body a).2.OfLinks a.link (chinaTimesLinks.links body a.source) := by
  simp only [chinaTimesBody, LinkRule.links, chinaTimesLinks, List.flatMap_singleton]
  generalize body.first? "article.article-box" = box
  cases box with
  | none => exact Issues.ofLinks_nil
  | some box =>
    rw [Option.toList_some, List.flatMap_singleton]
    refine ofLinks_collectRelated _ ?_ _ _ _
    rfl

theorem ofLinks_ettodayBody :
    (ettodayBody body a).2.OfLinks a.link (ettodayLinks.links body a.source) := by
  have link : ((ettodayParagraphs body).foldl addEttodayParagraph a).link = a.link :=
    link_eq_of_outline_eq (outline_foldl_addEttodayParagraph a (ettodayParagraphs body))
  simp only [ettodayBody, LinkRule.links, ettodayLinks, List.flatMap_singleton]
  generalize body.first? "div#hot_area div.tab_content div.piece div.part_list_3" = part
  cases part with
  | none => exact Issues.ofLinks_nil
  | some part =>
    rw [Option.toList_some, List.flatMap_singleton]
    refine ofLinks_collectRelated _ ?_ _ _ _
    exact link

theorem ofLinks_libertyTimesBody :
    (libertyTimesBody body a).2.OfLinks a.link (libertyTimesLinks.links body a.source) := by
  simp only [libertyTimesBody, LinkRule.links, libertyTimesLinks, List.flatMap_singleton]
  refine ofLinks_collectRelated _ ?_ _ _ _
  rfl

theorem ofLinks_unitedDailyBody :
    (unitedDaily.fromBody body a).2.OfLinks a.link (unitedDailyLinks.links body a.source) := by
  simp only [unitedDaily, LinkRule.links, unitedDailyLinks, List.flatMap_singleton]
  split
  · simp only [unitedGlobalBody, List.flatMap_singleton]
    refine ofLinks_collectRelated _ ?_ _ _ _
    rfl
  · simp only [unitedDomesticBody, List.flatMap_singleton]
    refine ofLinks_collectRelated _ ?_ _ _ _
    exact link_eq_of_outline_eq (by simp only [outline_append, outline_byline])

theorem ofLinks_bbcBody : (bbcBody body a).2.OfLinks a.link (bbcLinks.links body a.source) := by
  simp only [bbcBody, LinkRule.links, bbcLinks, List.flatMap_cons, List.flatMap_nil, List.append_nil]
  refine ofLinks_collectRelatedTwice _ ?_ _ _ _ _
  exact link_eq_of_outline_eq (by simp only [outline_append, outline_byline])

theorem ofLinks_newYorkTimesBody :
    (newYorkTimesBody body a).2.OfLinks a.link (newYorkTimesLinks.links body a.source) := by
  simp only [newYorkTimesBody, LinkRule.links, newYorkTimesLinks, List.flatMap_singleton]
  refine ofLinks_collectRelated _ ?_ _ _ _
  rfl

theorem ofLinks_publicTelevisionBody :
    (publicTelevisionBody body a).2.OfLinks a.link (publicTelevisionLinks.links body a.source) := by
  simp only [publicTelevisionBody, LinkRule.links, publicTelevisionLinks, List.flatMap_cons,
    List.flatMap_nil, List.append_nil]
  refine ofLinks_collectRelatedTwice _ ?_ _ _ _ _
  generalize body.first? "article.row div.post-article" = post
  cases post <;> rfl

theorem ofLinks_radioFranceBody :
    (radioFranceBody body a).2.OfLinks a.link (radioFranceLinks.links body a.source) := by
  simp only [radioFranceBody, LinkRule.links, radioFranceLinks, List.flatMap_singleton]
  generalize body.first? "main article" = article
  cases article with
  | none => exact Issues.ofLinks_nil
  | some article =>
    rw [Option.toList_some, List.flatMap_singleton]
    refine ofLinks_collectRelated _ ?_ _ _ _
    exact link_eq_of_outline_eq (by simp only [outline_append, outline_byline])

theorem ofLinks_setnBody :
    (setnBody body a).2.OfLinks a.link (setnLinks.links body a.source) := by
  simp only [setnBody, LinkRule.links, setnLinks, List.flatMap_singleton]
  refine ofLinks_collectRelated _ ?_ _ _ _
  exact link_eq_of_outline_eq (outline_foldl_addSetnParagraph a _)

theorem ofLinks_upMediaBody :
    (upMediaBody body a).2.OfLinks a.link (upMediaLinks.links body a.source) := by
  simp only [upMediaBody, LinkRule.links, upMediaLinks, List.flatMap_singleton]
  refine ofLinks_collectRelated _ ?_ _ _ _
  exact link_eq_of_outline_eq (by simp only [outline_append, outline_byline])

end Bodies

/-- The issues of `Site.fromBody` are those of the links that are `followed`. -/
theorem ofLinks_fromBody {site : Site} (known : site ∈ Registry.knownSites) (body : Spot)
    (a : Article) : (site.fromBody body a).2.OfLinks a.link (site.followed body a.source) := by
  induction site, known using Registry.known_cases with
  | newsAgency => exact ofLinks_newsAgencyBody body a
  | chinaTimes => exact ofLinks_chinaTimesBody body a
  | ettoday => exact ofLinks_ettodayBody body a
  | libertyTimes => exact ofLinks_libertyTimesBody body a
  | unitedDaily => exact ofLinks_unitedDailyBody body a
  | bbc => exact ofLinks_bbcBody body a
  | newYorkTimes => exact ofLinks_newYorkTimesBody body a
  | publicTelevision => exact ofLinks_publicTelevisionBody body a
  | radioFrance => exact ofLinks_radioFranceBody body a
  | setn => exact ofLinks_setnBody body a
  | tvbs => exact Issues.ofLinks_nil
  | upMedia => exact ofLinks_upMediaBody body a

end Site

end Gazette
