import Gazette.Site.Basic
import Gazette.Site.Body
import Gazette.Site.Byline
import Gazette.Site.Identifier
import Gazette.Site.Section
import Gazette.Site.Title

/-!
# Newspapers

The rules of the newspapers: China Times (`Site.chinaTimes`), Liberty Times (`Site.libertyTimes`), United Daily
News (`Site.unitedDaily`) and the Chinese edition of the New York Times (`Site.newYorkTimes`).
-/

namespace Gazette.Site

open Html

/-! ## China Times -/

/-- Completes the record `a` from a page of China Times. -/
def chinaTimesBody (body : Spot) (a : Article) : Article × Issues :=
  match body.first? "article.article-box" with
  | none => (a, Table.empty)
  | some box =>
    let authors :=
      Body.texts Byline.first box "div.meta-info-wrapper div.meta-info div.author"
    let a := { a with authors := Article.firstList a.authors authors }
    let a := a.append (Body.trimmed box "div.article-body[itemprop='articleBody'] p")
    a.collectRelated Identifier.byLastPiece box
      "div.article-body[itemprop='articleBody'] div.promote-word a" fun _ ↦ true

/-- China Times. -/
def chinaTimes : Site where
  name := "chinatimes"
  domains := ["www.chinatimes.com"]
  guid := Identifier.byLastPiece
  headTable := HeadTable.standard.set .description "meta[name='description']"
  fromHead head pageUrl draft :=
    let (draft, failure) := head.fill pageUrl Identifier.byLastPiece draft
    (Title.leadingPieces " - " head.title draft, failure)
  fromBody := chinaTimesBody

/-! ## Liberty Times -/

/-- The domain of the sports pages of Liberty Times. -/
def libertySports : String := "sports.ltn.com.tw"

/-- The paragraphs of a news page of Liberty Times. -/
def libertyNewsParagraphs (body : Spot) : List String :=
  let found := body.all "div.content div.whitecon[itemprop='articleBody'] div.text > p"
  ((found.filter fun p ↦ (p.attribute? "class").isNone).map fun p ↦
    Text.cleanParagraph p.text).filter fun t ↦ !t.isEmpty

/-- The paragraphs of a sports page of Liberty Times. -/
def libertySportsParagraphs (body : Spot) : List String :=
  let found := body.all "div.content div.whitecon[data-desc='內文'] div.text > p"
  ((found.filter fun p ↦
    (p.attribute? "class").isNone && p.children.all fun n ↦ !n.isElement).map fun p ↦
      Text.cleanParagraph p.text).filter fun t ↦ !t.isEmpty

/-- Completes the record `a` from a page of Liberty Times: `libertySportsParagraphs` on the pages of
`libertySports`, else `libertyNewsParagraphs`. -/
def libertyTimesBody (body : Spot) (a : Article) : Article × Issues :=
  let paragraphs :=
    if a.source = some libertySports then libertySportsParagraphs body
    else libertyNewsParagraphs body
  let a := a.append paragraphs
  let a := a.byline ((a.content.head?.map Byline.bracketed).getD [])
  a.collectRelated Identifier.byPath body
    "div.content div.related[data-desc='相關新聞'] a[data-desc]" fun _ ↦ true

/-- Liberty Times. -/
def libertyTimes : Site where
  name := "ltn"
  domains := ["news.ltn.com.tw", libertySports]
  guid := Identifier.byPath
  layout := { head := "html" }
  headTable := .ofList [
    (.link, "link[rel='canonical']"),
    (.description, "meta[name='description'][itemprop='description']"),
    (.category,
      "meta[name='section'][property='article:section'][itemprop='articleSection']"),
    (.published,
      "meta[name='pubdate'][property='article:published_time'][itemprop='datePublished']"),
    (.keywords, "meta[name='news_keywords'][itemprop='keywords']")]
  fromHead head pageUrl draft :=
    let (draft, failure) := head.fill pageUrl Identifier.byPath draft
    (Title.leadingPieces " - " head.title draft, failure)
  fromBody := libertyTimesBody

/-! ## United Daily News -/

/-- The domain of the world pages of United Daily News. -/
def unitedGlobal : String := "global.udn.com"

/-- Completes the record `a` from a page of `unitedGlobal`. -/
def unitedGlobalBody (body : Spot) (a : Article) : Article × Issues :=
  let a := a.append (Body.paragraphs body "div#story_body div.story_body_content > p")
  let a := { a with authors := a.authors ++ Body.trimmed body "div#story_bady_info > span" }
  a.collectRelated Identifier.byStoryNumbers body
    "div#story_also dt a[data-slotname='list_推薦閱讀']" fun _ ↦ true

/-- Completes the record `a` from any other page of United Daily News. -/
def unitedDomesticBody (body : Spot) (a : Article) : Article × Issues :=
  let a := a.byline
    (Body.trimmed body "section.authors span.article-content__author > a")
  let a := a.append
    (Body.paragraphs body "article.article-content div.article-content__paragraph p")
  a.collectRelated Identifier.byStoryNumbers body
    ("section.more-news div.context-box__content div.story-list__news " ++
      "div.story-list__text a") fun _ ↦ true

/-- United Daily News. -/
def unitedDaily : Site where
  name := "udn"
  domains := ["udn.com", unitedGlobal]
  guid := Identifier.byStoryNumbers
  headTable := .ofList [
    (.link, HeadTable.canonical),
    (.description, HeadTable.metaWith [("name", "description"), ("itemprop", "description")]),
    (.category, HeadTable.metaWith [("name", "section"), ("property", "article:section"),
      ("itemprop", "articleSection")]),
    (.published, HeadTable.metaWith [("name", "pubdate"),
      ("property", "article:published_time"), ("itemprop", "datePublished")]),
    (.keywords, HeadTable.metaWith [("itemprop", "keywords")])]
  fromHead head pageUrl draft :=
    let (draft, failure) := head.fill pageUrl Identifier.byStoryNumbers draft
    ({ draft with title := Title.firstOf 3 " | " head.title }, failure)
  fromBody body a :=
    if a.source = some unitedGlobal then unitedGlobalBody body a else unitedDomesticBody body a

/-! ## New York Times -/

/-- Completes the record `a` from a page of the New York Times. -/
def newYorkTimesBody (body : Spot) (a : Article) : Article × Issues :=
  let found := body.all
    ("main.main div.article-area article.article-content section.article-body " ++
      "div.article-body-item div.article-paragraph")
  let paragraphs := ((found.filter fun p ↦ !p.holds "figcaption").map fun p ↦
    Text.cleanParagraph p.text).filter fun t ↦ !t.isEmpty
  let a := a.append paragraphs
  a.collectRelated Identifier.byInnerPath body
    ("main.main div.article-area div.article-footer div.related-cont ul.refer-list " ++
      "li.article-refer div.refer-list-item a") fun _ ↦ true

/-- Fills `draft` from a head of the New York Times. The category is read off the address by
`Section.firstPieceOf?`. -/
def newYorkTimesHead (head : Head) (pageUrl : String) (draft : Article) :
    Article × Option Failure :=
  let (draft, failure) := head.fill pageUrl Identifier.byInnerPath draft
  let link := (draft.link.map Url.href).getD head.link
  ({ draft with
      title := Title.without " - 紐約時報中文網" head.title
      authors := Text.keywords head.author
      category := (Section.firstPieceOf? link).getD draft.category }, failure)

/-- The New York Times. -/
def newYorkTimes : Site where
  name := "nytimes"
  domains := ["cn.nytimes.com"]
  guid := Identifier.byInnerPath
  publishesLinkedData := false
  headTable := .ofList [
    (.link, "link[rel='canonical']"),
    (.description, "meta[name='description']"),
    (.published, "meta[property='article:published_time']"),
    (.author, "meta#byline[name='byline']")]
  fromHead := newYorkTimesHead
  fromBody := newYorkTimesBody

end Gazette.Site
