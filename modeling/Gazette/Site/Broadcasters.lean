import Gazette.Site.Basic
import Gazette.Site.Body
import Gazette.Site.Byline
import Gazette.Site.Identifier
import Gazette.Site.Mending
import Gazette.Site.Section
import Gazette.Site.Title

/-!
# Broadcasters

The rules of the broadcasters: the Chinese pages of the BBC (`Site.bbc`) and of Radio France Internationale
(`Site.radioFrance`), the public television service (`Site.publicTelevision`), SET News (`Site.setn`) and TVBS
(`Site.tvbs`).
-/

namespace Gazette.Site

open Html

/-! ## BBC -/

/-- Fills `draft` from a head of the BBC. The category is read off the address by `Section.topicOf?`. -/
def bbcHead (head : Head) (pageUrl : String) (draft : Article) : Article × Option Failure :=
  let (draft, failure) := head.fill pageUrl Identifier.byLastPiece draft
  let link := (draft.link.map Url.href).getD (Text.trim head.link)
  ({ draft with
      title := Title.without " - BBC News 中文" head.title
      category := (Section.topicOf? link).getD draft.category }, failure)

/-- Completes the record `a` from a page of the BBC. -/
def bbcBody (body : Spot) (a : Article) : Article × Issues :=
  let authors := Body.trimmed body
    ("main[role='main'] div[dir='ltr'] div.bbc-1atl7vu.euvj3t14 " ++
      "ul.bbc-143s8qx[role='list'] li")
  let a := a.byline (authors.filter fun name ↦ !Text.startsWith "BBC" name)
  let a := a.append <| Body.paragraphs body
    ("main[role='main'] div.bbc-19j92fr[dir='ltr'] > p.bbc-w2hm1d, " ++
      "main[role='main'] div.bbc-19j92fr[dir='ltr'] > h2.bbc-z6r16b")
  a.collectRelatedTwice Identifier.byLastPiece body
    "main[role='main'] div.etpldq00 ul li a.focusIndicatorReducedWidth"
    "section[data-e2e='related-content-heading'] ul li a" fun _ ↦ true

/-- The BBC. Its tags are the topics of the linked data. -/
def bbc : Site where
  name := "bbc"
  domains := ["www.bbc.com", "www.bbc.co.uk"]
  guid := Identifier.byLastPiece
  mend := Mending.narrowed
  afterLinkedData data draft :=
    { draft with
      tags := (data.about.map fun topic ↦ Text.trim topic.name).filter fun t ↦ !t.isEmpty }
  headTable := .ofList [
    (.link, "link[rel='canonical']"),
    (.description, "meta[name='description']"),
    (.published, "meta[name='article:published_time']"),
    (.modified, "meta[name='article:modified_time']"),
    (.keywords, "meta[name='article:tag']")]
  fromHead := bbcHead
  fromBody := bbcBody

/-! ## Public television -/

/-- The persons among some authors. A name may hold several, with spaces between them, and a place behind
a slash. -/
def personNames (authors : List Thing) : List String :=
  sortedTexts <| (authors.filter fun t ↦ Text.asciiLower t.kind = "person").flatMap fun t ↦
    Byline.pieces " " (Text.headPiece "／" t.name)

/-- Whether a link leads to an article of the public television service. -/
def isPublicTelevisionArticle (href : String) : Bool := Text.contains "news.pts.org.tw/article" href

/-- Completes the record `a` from a page of the public television service. The second step of the path that the
page shows is the category. -/
def publicTelevisionBody (body : Spot) (a : Article) : Article × Issues :=
  let steps := body.all
    "article nav[aria-label='breadcrumb'] ol.breadcrumb li.breadcrumb-item a"
  let category := (steps[1]?.map fun s ↦ Text.trim s.text).getD ""
  let a := { a with category := Article.firstText category a.category }
  let a := match body.first? "article.row div.post-article" with
    | some post =>
      { a with content := Body.texts Text.cleanParagraphSpaced post "p, h2, table tbody tr" }
    | none => a
  a.collectRelatedTwice Identifier.byLastPiece body
    "div.issue-cords-1 div.d-flex div.issue-item-title h6 a"
    "div.relative-news-list-content h4.m-0 a" isPublicTelevisionArticle

/-- The public television service. -/
def publicTelevision : Site where
  name := "pts"
  domains := ["news.pts.org.tw"]
  guid := Identifier.byLastPiece
  afterLinkedData data draft :=
    { draft with
      title := Title.firstOfTwo " ｜ " data.headline
      authors := personNames data.author }
  headTable := .ofList [
    (.link, "link[rel='canonical']"),
    (.description, "meta[name='description']"),
    (.published, "meta[property='pubdate']"),
    (.modified, "meta[property='moddate']")]
  fromHead head pageUrl draft :=
    let (draft, failure) := head.fill pageUrl Identifier.byLastPiece draft
    ({ draft with title := Title.firstOfTwo " ｜ " head.title }, failure)
  fromBody := publicTelevisionBody

/-! ## Radio France Internationale -/

/-- Completes the record `a` from a page of Radio France Internationale. -/
def radioFranceBody (body : Spot) (a : Article) : Article × Issues :=
  match body.first? "main article" with
  | none => (a, Table.empty)
  | some article =>
    let author :=
      ((article.first? "div.m-from-author a").bind (·.attribute? "title")).map Text.trim
    let a := a.byline (author.toList.filter fun name ↦ !name.isEmpty)
    let a := a.append (Body.paragraphs article "div.t-content__body > p")
    a.collectRelated Identifier.byDigest article
      "div.t-content__tags ul.m-tags-list li.m-tags-list__tag a" fun _ ↦ true

/-- Radio France Internationale. -/
def radioFrance : Site where
  name := "rfi"
  domains := ["www.rfi.fr"]
  guid := Identifier.byDigest
  headTable := .ofList [
    (.link, "link[rel='canonical']"),
    (.description, "meta[name='description']"),
    (.category, "meta[property='article:section']"),
    (.published, "meta[property='article:published_time']"),
    (.modified, "meta[property='article:modified_time']"),
    (.keywords, "meta[name='keywords']")]
  fromHead head pageUrl draft :=
    let (draft, failure) := head.fill pageUrl Identifier.byDigest draft
    (Title.whole head.title draft, failure)
  fromBody := radioFranceBody

/-! ## SET News -/

/-- Whether a paragraph is centred, as captions are. -/
def isCentred (p : Spot) : Bool :=
  match p.attribute? "style" with
  | some style => style = "text-align: center;" || style = "text-align:center;"
  | none => false

/-- The record `a` with the text of one more paragraph of SET News: its byline by `Byline.deskOrWriter` if it has
no authors yet, else its line. -/
def addSetnParagraph (a : Article) (text : String) : Article :=
  if a.authors.isEmpty then { a with authors := Byline.deskOrWriter text }
  else
    let line := Text.collapseSpaces (Text.trim (Text.stripHidden text))
    if line.isEmpty || Text.startsWith "延伸閱讀" line then a else a.append [line]

/-- Completes the record `a` from a page of SET News, by `addSetnParagraph` over its paragraphs. -/
def setnBody (body : Spot) (a : Article) : Article × Issues :=
  let found := (body.all "div#ckuse article div > p").filter fun p ↦ !isCentred p
  let a := ((found.map Spot.text).filter Body.isStory).foldl addSetnParagraph a
  a.collectRelated (Identifier.byQueryValue "NewsID") body
    "div.tagNewsArea div.tagNewsBox div.tagNews a.gt" fun _ ↦ true

/-- The title of a page of SET News. -/
def setnTitle (title : String) : String :=
  let pieces := Text.splitOn " | " title
  if 3 ≤ pieces.length then Text.trim (Text.stripHidden (pieces.headD "")) else Text.trim title

/-- SET News. -/
def setn : Site where
  name := "setn"
  domains := ["www.setn.com"]
  guid := Identifier.byQueryValue "NewsID"
  headTable := .ofList [
    (.link, "link[rel='canonical']"),
    (.description, "meta[name='Description']"),
    (.language, "meta[http-equiv='content-language']"),
    (.category, "meta[property='article:section']"),
    (.published, "meta[name='pubdate']"),
    (.modified, "meta[name='moddate']"),
    (.keywords, "meta[name='news_keywords'][itemprop='keywords']")]
  fromHead head pageUrl draft :=
    let (draft, failure) := head.fill pageUrl (Identifier.byQueryValue "NewsID") draft
    ({ draft with
        published := head.instantWithOffset? Head.taipeiOffset
        title := setnTitle head.title }, failure)
  fromBody := setnBody

/-! ## TVBS -/

/-- The title in front of a bar. -/
def tvbsTitle (title : String) : String := Text.trim (Text.headPiece "│" title)

/-- TVBS. All text of the article lies loose in one element, between advertisements and pictures. -/
def tvbs : Site where
  name := "tvbs"
  domains := ["news.tvbs.com.tw"]
  guid := Identifier.byCategoryAndNumber
  layout := { body := "div#news_detail_div" }
  afterLinkedData data draft :=
    { draft with
      title := tvbsTitle data.headline
      authors := draft.authors ++
        (((data.author.filter (·.kind = "Person")).map fun t ↦ Text.trim t.name).filter
          fun name ↦ !name.isEmpty) }
  headTable := .ofList [
    (.link, "link[rel='canonical']"),
    (.description, "meta[name='description']"),
    (.language, "meta[http-equiv='content-language']"),
    (.category,
      "meta[name='section'][property='article:section'][itemprop='articleSection']"),
    (.published, "meta[name='pubdate'][property='article:published_time']"),
    (.modified, "meta[name='moddate'][property='article:modified_time']"),
    (.keywords, "meta[name='keywords'][itemprop='keywords']")]
  fromHead head pageUrl draft :=
    let (draft, failure) := head.fill pageUrl Identifier.byCategoryAndNumber draft
    ({ draft with title := tvbsTitle head.title }, failure)
  fromBody body a :=
    (a.append (Text.splitLines
      (body.textWithout ["div[align='center']", "div.img", "div.guangxuan"])), Table.empty)

end Gazette.Site
