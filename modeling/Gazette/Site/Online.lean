import Gazette.Site.Basic
import Gazette.Site.Body
import Gazette.Site.Byline
import Gazette.Site.Identifier
import Gazette.Site.Mending
import Gazette.Site.Title

/-!
# News agency and online papers

The rules of the Central News Agency (`Site.newsAgency`), of ETtoday (`Site.ettoday`) and of Up Media
(`Site.upMedia`).
-/

namespace Gazette.Site

open Html

/-! ## Central News Agency -/

/-- A record of the Central News Agency with one more of the blocks that a page consists of, the tags
found so far, and the issues. -/
def addAgencyBlock (found : Article × List String × Issues) (paragraph : Spot) :
    Article × List String × Issues :=
  let (a, tags, issues) := found
  let a := a.append (Body.trimmed paragraph "p")
  let more := (paragraph.all "div.keywordTag a").map fun s ↦
    Text.trim (Text.via (List.dropWhile (· == '#')) (Text.trim s.text))
  let (a, others) := a.collectRelated Identifier.byNumberedPage paragraph
    "div.moreArticle a.moreArticle-link" (Text.contains "www.cna.com.tw/news")
  (a, tags ++ more, issues.extend others)

/-- Completes the record `a` from a page of the Central News Agency, by `addAgencyBlock` over its blocks. The last
paragraph ends with a credit: `Byline.credited?`. -/
def newsAgencyBody (body : Spot) (a : Article) : Article × Issues :=
  let blocks := (body.all "div.centralContent").filterMap (·.first? "div.paragraph")
  let (a, tags, issues) := blocks.foldl addAgencyBlock (a, [], Table.empty)
  let a := a.addTags tags
  ({ a with authors := (a.content.getLast?.bind Byline.credited?).getD a.authors }, issues)

/-- The Central News Agency. Its linked data hold the description under another key: `Mending.describing`. -/
def newsAgency : Site where
  name := "cna"
  domains := ["www.cna.com.tw"]
  guid := Identifier.byNumberedPage
  mend := Mending.describing
  afterLinkedData data draft :=
    { draft with
      authors := draft.authors ++ data.authorNames.take 1
      tags := draft.tags.filter (· != newsArticle) }
  headTable := .ofList [
    (.link, "link[rel='canonical']"),
    (.description, "meta[name='description']"),
    (.category,
      "meta[name='section'][property='article:section'][itemprop='articleSection']"),
    (.published, "meta[property='article:published_time']"),
    (.modified, "meta[property='article:modified_time']"),
    (.keywords, "meta[property='article:tag']")]
  fromHead head pageUrl draft :=
    let (draft, failure) := head.fill pageUrl Identifier.byNumberedPage draft
    (Title.threePieces " | " head.title draft, failure)
  fromBody := newsAgencyBody

/-! ## ETtoday -/

/-- The record `a` with the text of one more paragraph of ETtoday: its byline by `Byline.reportersOrDesk` if it
has no authors yet. -/
def addEttodayParagraph (a : Article) (text : String) : Article :=
  if a.authors.isEmpty then { a with authors := Byline.reportersOrDesk text } else a.append [text]

/-- The paragraphs of a page of ETtoday. -/
def ettodayParagraphs (body : Spot) : List String :=
  let found := body.all "article div.story[itemprop='articleBody'] > p"
  let texts := (found.filter fun p ↦ !p.holds "span strong").map Spot.text
  ((texts.filter fun t ↦ !Text.startsWith "延伸閱讀" t).map Text.trim).filter Body.isStory

/-- Completes the record `a` from a page of ETtoday, by `addEttodayParagraph` over `ettodayParagraphs`. -/
def ettodayBody (body : Spot) (a : Article) : Article × Issues :=
  let a := (ettodayParagraphs body).foldl addEttodayParagraph a
  match body.first? "div#hot_area div.tab_content div.piece div.part_list_3" with
  | some part => a.collectRelated Identifier.byDatedPage part "h3 a" fun _ ↦ true
  | none => (a, Table.empty)

/-- ETtoday. Its linked data are broken by line separators, which `Text.stripHidden` takes out, and do not name
the authors. -/
def ettoday : Site where
  name := "ettoday"
  domains := ["www.ettoday.net"]
  guid := Identifier.byDatedPage
  mend := Text.stripHidden
  afterLinkedData _ draft := { draft with authors := [] }
  headTable := .ofList [
    (.link, "link[rel='canonical'][itemprop='mainEntityOfPage']"),
    (.description, "meta[name='description']"),
    (.category, "meta[name='section'][property='article:section']"),
    (.published,
      "meta[name='pubdate'][property='article:published_time'][itemprop='datePublished']"),
    (.keywords, "meta[name='news_keywords'][itemprop='keywords']")]
  fromHead head pageUrl draft :=
    let (draft, failure) := head.fill pageUrl Identifier.byDatedPage draft
    ({ draft with title := Title.firstOf 3 " | " head.title }, failure)
  fromBody := ettodayBody

/-! ## Up Media -/

/-- The identifier of an article of Up Media, by `Identifier.byQueryValues`. -/
def upMediaGuid : Url → String := Identifier.byQueryValues "Type" "SerialNo"

/-- The name of an author without the mark of a flash report. -/
def upMediaAuthor (s : String) : String := Text.trim (Text.dropLead "上報快訊／" (Text.trim s))

/-- Completes the record `a` from a page of Up Media. -/
def upMediaBody (body : Spot) (a : Article) : Article × Issues :=
  let a := a.byline (Body.texts upMediaAuthor body "div#news-info div.author > a")
  let paragraphs := Body.trimmed body "div#news-info div.editor > p"
  let a := a.append (paragraphs.filter fun t ↦ !Text.contains "作者為《上報》總主筆" t)
  a.collectRelated upMediaGuid body "div#news-info div.related ul li > a" fun _ ↦ true

/-- Up Media. -/
def upMedia : Site where
  name := "upmedia"
  domains := ["www.upmedia.mg"]
  guid := upMediaGuid
  publishesLinkedData := false
  headTable := .ofList [
    (.link, "link[rel='canonical']"),
    (.description, "meta[name='description']"),
    (.category, "meta[itemprop='articleSection']"),
    (.published, "meta[itemprop='datePublished']"),
    (.modified, "meta[itemprop='dateModified']"),
    (.keywords, "meta[itemprop='keywords']")]
  fromHead head pageUrl draft :=
    let (draft, failure) := head.fill pageUrl upMediaGuid draft
    ({ draft with
        published := head.instantWithOffset? Head.taipeiOffset
        title := Title.firstOfTwo "--" head.title }, failure)
  fromBody := upMediaBody

end Gazette.Site
