import Gazette.Proofs.Site.Bylines
import Gazette.Proofs.Site.Records
import Gazette.Proofs.Site.Stories

/-!
# Authors of records

A record should name its authors by names that are `Text.Neat`; `Article.Signed` says that it does. Nine of the
sites see to that, wherever the names come from. ETtoday and SET News take the first paragraph of a story for
its byline and keep the blank pieces of it (`Byline.reportersOrDesk`, `Byline.deskOrWriter`), and SET News does
not trim the name of a writer. The New York Times resolves escapes in the byline of its head last
(`Text.keywords`). `Site.Slips` is what a page must hold for one of these to show, and all other records have
neat names (`signed_extractFrom_iff`).

What a body does to the authors is said by `Attributed`, site by site (`attributed_fromBody`), but for the news
agency and the two sites that tell a story.
-/

namespace Gazette

open Html

/-! ## Operations on authors -/

namespace Article

/-- All authors of a record have names that are `Text.Neat`. -/
def Signed (a : Article) : Prop := ∀ name ∈ a.authors, Text.Neat name

variable {a b : Article}

theorem Signed.congr (h : a.Signed) (authors : b.authors = a.authors) : b.Signed := by
  unfold Signed
  rw [authors]
  exact h

theorem signed_of_authors_eq_nil (h : a.authors = []) : a.Signed := by
  intro name mem
  rw [h] at mem
  exact absurd mem List.not_mem_nil

/-- A member of `firstList` is a member of one of the two lists. -/
theorem mem_of_mem_firstList {name : String} {l m : List String} (h : name ∈ firstList l m) :
    name ∈ l ∨ name ∈ m := by
  unfold firstList at h
  split at h
  · exact .inr h
  · exact .inl h

theorem firstList_ne_nil {l m : List String} (full : l ≠ [] ∨ m ≠ []) : firstList l m ≠ [] := by
  cases l with
  | nil => exact full.resolve_left (not_not_intro rfl)
  | cons name l => exact List.cons_ne_nil name l

@[simp] theorem firstList_nil (l : List String) : firstList [] l = l := rfl

/-- `merge` of two records that are `Signed` is `Signed`. -/
theorem Signed.merge (ha : a.Signed) (hb : b.Signed) : (a.merge b).Signed := by
  intro name mem
  rcases mem_of_mem_firstList mem with mem | mem
  · exact ha name mem
  · exact hb name mem

/-- `Attributed a b`: the record `b` has the authors of `a`, or neat names that were found, or both. -/
inductive Attributed (a b : Article) : Prop
  /-- Names that were found come before all others. -/
  | found {names : List String} (neat : ∀ name ∈ names, Text.Neat name)
    (authors : b.authors = firstList names a.authors)
  /-- Names that were found do not come before others. -/
  | kept {names : List String} (neat : ∀ name ∈ names, Text.Neat name)
    (authors : b.authors = firstList a.authors names)
  /-- Names that were found are added. -/
  | both {names : List String} (neat : ∀ name ∈ names, Text.Neat name)
    (authors : b.authors = a.authors ++ names)

theorem attributed_of_authors_eq (authors : b.authors = a.authors) : Attributed a b :=
  .both (fun _ mem ↦ absurd mem List.not_mem_nil) (authors.trans (List.append_nil a.authors).symm)

/-- `Attributed` names leave a record `Signed`. -/
theorem Attributed.signed (h : Attributed a b) (signed : a.Signed) : b.Signed := by
  intro name mem
  cases h with
  | found neat authors =>
    rw [authors] at mem
    exact (mem_of_mem_firstList mem).elim (neat name) (signed name)
  | kept neat authors =>
    rw [authors] at mem
    exact (mem_of_mem_firstList mem).elim (signed name) (neat name)
  | both neat authors =>
    rw [authors] at mem
    exact (List.mem_append.1 mem).elim (signed name) (neat name)

/-- Known authors make way for `Attributed` names only. -/
theorem Attributed.named (h : Attributed a b) (named : a.authors ≠ []) : b.authors ≠ [] := by
  cases h with
  | found neat authors =>
    rw [authors]
    exact firstList_ne_nil (.inr named)
  | kept neat authors =>
    rw [authors]
    exact firstList_ne_nil (.inl named)
  | both neat authors =>
    rw [authors]
    exact List.append_ne_nil_of_left_ne_nil named _

variable (a) (guid : Url → String) (root : Spot)

theorem authors_relate (found : Article × Issues) (href : String) :
    (relate guid found href).1.authors = found.1.authors := by
  unfold relate addRelated
  cases Url.resolve found.1.link href with
  | ok url =>
    dsimp only
    split <;> rfl
  | error e => rfl

@[simp] theorem authors_collectRelated (css : String) (keep : String → Bool) :
    (a.collectRelated guid root css keep).1.authors = a.authors := by
  have links := foldl_keeps (fun found : Article × Issues ↦ found.1.authors) (authors_relate guid)
    (hrefs root css keep) (a, Table.empty)
  exact links

@[simp] theorem authors_collectRelatedTwice (css more : String) (keep : String → Bool) :
    (a.collectRelatedTwice guid root css more keep).1.authors = a.authors := by
  simp only [collectRelatedTwice, authors_collectRelated]

@[simp] theorem authors_append (paragraphs : List String) :
    (a.append paragraphs).authors = a.authors := rfl

@[simp] theorem authors_byline (authors : List String) :
    (a.byline authors).authors = firstList authors a.authors := rfl

end Article

namespace Site

open Article

/-! ## Authors of drafts -/

section Drafts

variable {site : Site} (page : Document) (address : String)

/-- `personNames` are `Text.Neat`. -/
theorem neat_of_mem_personNames {authors : List Thing} {name : String} (h : name ∈ personNames authors) :
    Text.Neat name := by
  obtain ⟨full, mem⟩ := mem_sortedTexts.1 h
  obtain ⟨thing, -, piece⟩ := List.mem_flatMap.1 mem
  exact ⟨full, Byline.trimmed_of_mem_pieces piece⟩

/-- Where linked data name no authors, `Site.linkedData` has none. -/
theorem authors_linkedData (silent : ∀ data, (site.fillLinkedData data {}).authors = []) :
    (site.linkedData page address).authors = [] := by
  rcases linkedData_cases site page address with empty | ⟨data, filled⟩
  · rw [empty]
  · rw [filled]
    exact silent data

/-- `Site.linkedData` is `Signed`. -/
theorem signed_linkedData (known : site ∈ Registry.knownSites) :
    (site.linkedData page address).Signed := by
  rcases linkedData_cases site page address with empty | ⟨data, filled⟩
  · rw [empty]
    exact signed_of_authors_eq_nil rfl
  · rw [filled]
    have trims (t : Thing) : Chars.Trimmed (Text.trim t.name).toList := Text.trimmed_trim t.name
    induction site, known using Registry.known_cases with
    | newsAgency =>
      intro name mem
      simp only [fillLinkedData, newsAgency, List.nil_append] at mem
      exact Text.neat_of_mem_filter trims (List.mem_of_mem_take mem)
    | publicTelevision =>
      intro name mem
      exact neat_of_mem_personNames mem
    | tvbs =>
      intro name mem
      simp only [fillLinkedData, tvbs, List.nil_append] at mem
      exact Text.neat_of_mem_filter trims mem
    | _ => exact signed_of_authors_eq_nil rfl

/-- But for the New York Times `Site.beforeBody` is `Signed`. -/
theorem signed_beforeBody (known : site ∈ Registry.knownSites)
    (other : site.name ≠ newYorkTimes.name) (pageUrl : Url) :
    (site.beforeBody page pageUrl).Signed := by
  have head := signed_of_authors_eq_nil (authors_headData page pageUrl.href known other)
  exact ((signed_linkedData page pageUrl.href known).merge head).congr rfl

/-- Where linked data name no authors, `Site.beforeBody` has those of `Site.headData`. -/
theorem authors_beforeBody (silent : ∀ data, (site.fillLinkedData data {}).authors = [])
    (pageUrl : Url) :
    (site.beforeBody page pageUrl).authors = (site.headData page pageUrl.href).authors := by
  have merged : (site.beforeBody page pageUrl).authors =
      firstList (site.linkedData page pageUrl.href).authors
        (site.headData page pageUrl.href).authors := rfl
  rw [merged, authors_linkedData page pageUrl.href silent, firstList_nil]

end Drafts

/-! ## The news agency -/

section Agency

variable (body : Spot) (a : Article)

/-- `addAgencyBlock` keeps the authors. -/
theorem authors_addAgencyBlock (found : Article × List String × Issues) (paragraph : Spot) :
    (addAgencyBlock found paragraph).1.authors = found.1.authors := by
  simp only [addAgencyBlock, authors_collectRelated, authors_append]

/-- The blocks that a page of the news agency consists of. -/
def agencyBlocks : List Spot := (body.all "div.centralContent").filterMap (·.first? "div.paragraph")

/-- The paragraphs in all `agencyBlocks`. -/
def agencyParagraphs : List String := (agencyBlocks body).flatMap fun block ↦ Body.trimmed block "p"

/-- `addAgencyBlock` of some blocks appends their paragraphs. -/
theorem content_foldl_addAgencyBlock (blocks : List Spot) (found : Article × List String × Issues) :
    (blocks.foldl addAgencyBlock found).1.content =
      found.1.content ++ blocks.flatMap fun block ↦ Body.trimmed block "p" := by
  induction blocks generalizing found with
  | nil => simp
  | cons block blocks ih =>
    have one : (addAgencyBlock found block).1.content = found.1.content ++ Body.trimmed block "p" := by
      simp only [addAgencyBlock]
      rw [fst_collectRelated]
      rfl
    rw [List.foldl_cons, ih, one, List.flatMap_cons, List.append_assoc]

/-- `newsAgencyBody` takes the authors from `Byline.credited?` of the last paragraph, if that has a credit. -/
theorem authors_newsAgencyBody : (newsAgencyBody body a).1.authors =
    ((a.content ++ agencyParagraphs body).getLast?.bind Byline.credited?).getD a.authors := by
  have authors := foldl_keeps (fun found : Article × List String × Issues ↦ found.1.authors) authors_addAgencyBlock
    (agencyBlocks body) (a, [], Table.empty)
  have content := content_foldl_addAgencyBlock (agencyBlocks body) (a, [], Table.empty)
  unfold agencyParagraphs
  unfold agencyBlocks at authors content ⊢
  simp only [newsAgencyBody]
  generalize List.foldl addAgencyBlock _ _ = found at authors content ⊢
  dsimp only at authors content
  have tagged : (found.1.addTags found.2.1).content = found.1.content := rfl
  have signed : (found.1.addTags found.2.1).authors = found.1.authors := rfl
  rw [tagged, signed, content, authors]

theorem signed_newsAgencyBody {a : Article} (h : a.Signed) : (newsAgencyBody body a).1.Signed := by
  intro name mem
  rw [authors_newsAgencyBody] at mem
  cases credit : (a.content ++ agencyParagraphs body).getLast?.bind Byline.credited? with
  | none =>
    rw [credit, Option.getD_none] at mem
    exact h name mem
  | some names =>
    rw [credit, Option.getD_some] at mem
    obtain ⟨paragraph, -, credited⟩ := Option.bind_eq_some_iff.1 credit
    exact Byline.neat_of_credited? credited mem

end Agency

/-! ## Careful bodies -/

theorem forall_mem_byline {byline? : Option String} {names : String → List String}
    {p : String → Prop} :
    (∀ name ∈ (byline?.map names).getD [], p name) ↔
      ∀ byline, byline? = some byline → ∀ name ∈ names byline, p name := by
  cases byline? with
  | none => simp
  | some byline => simp

section Bodies

variable (body : Spot) (a : Article)

theorem attributed_chinaTimesBody : Attributed a (chinaTimesBody body a).1 := by
  unfold chinaTimesBody
  generalize body.first? "article.article-box" = box
  cases box with
  | none => exact attributed_of_authors_eq rfl
  | some box =>
    apply Attributed.kept
    case authors =>
      simp only [authors_collectRelated, authors_append]
      rfl
    case neat => exact fun name mem ↦ Body.neat_of_mem_texts (fun s ↦ Text.trimmed_trim _) mem

theorem attributed_libertyTimesBody : Attributed a (libertyTimesBody body a).1 := by
  apply Attributed.found
  case authors =>
    simp only [libertyTimesBody, authors_collectRelated, authors_byline, authors_append]
    rfl
  case neat => exact forall_mem_byline.2 fun paragraph _ name named ↦ Byline.neat_of_mem_bracketed named

theorem attributed_unitedDailyBody : Attributed a (unitedDaily.fromBody body a).1 := by
  simp only [unitedDaily]
  split
  · apply Attributed.both
    case authors =>
      simp only [unitedGlobalBody, authors_collectRelated, authors_append]
      rfl
    case neat => exact fun name mem ↦ Body.neat_of_mem_trimmed mem
  · apply Attributed.found
    case authors =>
      simp only [unitedDomesticBody, authors_collectRelated, authors_append, authors_byline]
      rfl
    case neat => exact fun name mem ↦ Body.neat_of_mem_trimmed mem

theorem attributed_bbcBody : Attributed a (bbcBody body a).1 := by
  apply Attributed.found
  case authors =>
    simp only [bbcBody, authors_collectRelatedTwice, authors_append, authors_byline]
    rfl
  case neat => exact fun name mem ↦ Body.neat_of_mem_trimmed (List.mem_filter.1 mem).1

theorem authors_newYorkTimesBody : (newYorkTimes.fromBody body a).1.authors = a.authors := by
  simp only [newYorkTimes, newYorkTimesBody, authors_collectRelated, authors_append]

theorem authors_publicTelevisionBody : (publicTelevisionBody body a).1.authors = a.authors := by
  simp only [publicTelevisionBody, authors_collectRelatedTwice]
  generalize body.first? "article.row div.post-article" = post
  cases post <;> rfl

theorem attributed_radioFranceBody : Attributed a (radioFranceBody body a).1 := by
  unfold radioFranceBody
  generalize body.first? "main article" = article
  cases article with
  | none => exact attributed_of_authors_eq rfl
  | some article =>
    apply Attributed.found
    case authors =>
      simp only [authors_collectRelated, authors_append, authors_byline, Option.toList_map]
      rfl
    case neat => exact fun name mem ↦ Text.neat_of_mem_filter Text.trimmed_trim mem

theorem attributed_upMediaBody : Attributed a (upMediaBody body a).1 := by
  apply Attributed.found
  case authors =>
    simp only [upMediaBody, authors_collectRelated, authors_append, authors_byline]
    rfl
  case neat => exact fun name mem ↦ Body.neat_of_mem_texts (fun s ↦ Text.trimmed_trim _) mem

/-- But for the news agency and the two sites that tell a story, `Site.fromBody` gives `Attributed` names, if it
gives any. -/
theorem attributed_fromBody {site : Site} (known : site ∈ Registry.knownSites)
    (other : site.name ∉ [newsAgency.name, ettoday.name, setn.name]) : Attributed a (site.fromBody body a).1 := by
  induction site, known using Registry.known_cases with
  | newsAgency => exact absurd other (by decide)
  | chinaTimes => simpa only [chinaTimes] using attributed_chinaTimesBody body a
  | ettoday => exact absurd other (by decide)
  | libertyTimes => simpa only [libertyTimes] using attributed_libertyTimesBody body a
  | unitedDaily => exact attributed_unitedDailyBody body a
  | bbc => simpa only [bbc] using attributed_bbcBody body a
  | newYorkTimes => exact attributed_of_authors_eq (authors_newYorkTimesBody body a)
  | publicTelevision =>
    simpa only [publicTelevision] using attributed_of_authors_eq (authors_publicTelevisionBody body a)
  | radioFrance => simpa only [radioFrance] using attributed_radioFranceBody body a
  | setn => exact absurd other (by decide)
  | tvbs => exact attributed_of_authors_eq rfl
  | upMedia => simpa only [upMedia] using attributed_upMediaBody body a

end Bodies

/-! ## Bylines in a story -/

section Careless

variable (a : Article) (body : Spot)

/-- `ettoday` takes the authors of a record that has none from its first paragraph, by
`Byline.reportersOrDesk`. -/
theorem authors_ettodayBody :
    (ettoday.fromBody body a).1.authors =
      firstList a.authors (((ettodayParagraphs body).head?.map Byline.reportersOrDesk).getD []) := by
  rw [ettodayParagraphs_eq]
  exact (told_ettodayBody a body).authors_eq

/-- `setn` takes the authors of a record that has none from its first paragraph, by `Byline.deskOrWriter`. -/
theorem authors_setnBody :
    (setn.fromBody body a).1.authors =
      firstList a.authors (((setnParagraphs body).head?.map Byline.deskOrWriter).getD []) := by
  rw [setnParagraphs_eq]
  exact (told_setnBody a body).authors_eq

end Careless

/-! ## Authors of records -/

/-- The paragraph of a page that `ettoday` takes for its byline. -/
def ettodayByline? (page : Document) : Option String :=
  (page.first? ettoday.layout.body).bind fun body ↦ (ettodayParagraphs body).head?

/-- The paragraph of a page that `setn` takes for its byline. -/
def setnByline? (page : Document) : Option String :=
  (page.first? setn.layout.body).bind fun body ↦ (setnParagraphs body).head?

/-- The byline in the head of a page that `newYorkTimes` reads. -/
def newYorkTimesByline? (page : Document) : Option String :=
  (page.first? newYorkTimes.layout.head).map fun head ↦
    (Head.collect newYorkTimes.headTable head).author

/-- `site.Slips page`: the page holds what makes the site name authors by names that are not neat. -/
inductive Slips (site : Site) (page : Document) : Prop
  /-- The byline of a page of ETtoday has nothing where a name is due. -/
  | nobody (name : site.name = ettoday.name) {byline : String}
    (found : ettodayByline? page = some byline) (empty : "" ∈ Byline.reportersOrDesk byline)
  /-- The byline of a page of SET News has nothing where a name is due. -/
  | noDesk (name : site.name = setn.name) {byline : String}
    (found : setnByline? page = some byline) (empty : "" ∈ Byline.deskOrWriter byline)
  /-- The byline of a page of SET News names a writer with white space around the name. -/
  | writer (name : site.name = setn.name) {byline : String}
    (found : setnByline? page = some byline) (loose : Byline.LooseWriter byline)
  /-- An escape in the byline of a page of the New York Times stands for white space at an end of a name. -/
  | escape (name : site.name = newYorkTimes.name) {byline piece : String}
    (found : newYorkTimesByline? page = some byline) (mem : piece ∈ Text.splitOn "," byline)
    (escaped : Text.contains "\\u" (Text.trim piece)) (full : Text.trim piece ≠ "")
    (bad : ¬ Text.Neat (Text.unescape (Text.trim piece)))

section Records

variable (page : Document) (pageUrl : Url)

/-- Where neither linked data nor head name authors, those of `extractFrom` are the ones that its body names. -/
theorem authors_extractFrom_of_body {site : Site} (known : site ∈ Registry.knownSites)
    (other : site.name ≠ newYorkTimes.name)
    (silent : ∀ data, (site.fillLinkedData data {}).authors = [])
    {byline? : Spot → Option String} {names : String → List String}
    (named : ∀ a body,
      (site.fromBody body a).1.authors = firstList a.authors (((byline? body).map names).getD [])) :
    (site.extractFrom page pageUrl).article.authors =
      (((page.first? site.layout.body).bind byline?).map names).getD [] := by
  have before : (site.beforeBody page pageUrl).authors = [] := by
    rw [authors_beforeBody page silent, authors_headData page pageUrl.href known other]
  rw [article_extractFrom]
  cases page.first? site.layout.body with
  | none => exact before
  | some body =>
    dsimp only [Option.bind_some]
    rw [named, before, firstList_nil]

/-- The authors of a record of `ettoday` are those of `ettodayByline?`. -/
theorem authors_extractFrom_ettoday :
    (ettoday.extractFrom page pageUrl).article.authors =
      ((ettodayByline? page).map Byline.reportersOrDesk).getD [] :=
  authors_extractFrom_of_body page pageUrl (by simp [Registry.knownSites]) (by decide)
    (fun _ ↦ rfl) authors_ettodayBody

/-- The authors of a record of `setn` are those of `setnByline?`. -/
theorem authors_extractFrom_setn :
    (setn.extractFrom page pageUrl).article.authors =
      ((setnByline? page).map Byline.deskOrWriter).getD [] :=
  authors_extractFrom_of_body page pageUrl (by simp [Registry.knownSites]) (by decide)
    (fun _ ↦ rfl) authors_setnBody

/-- The authors of a record of `newYorkTimes` are those of `newYorkTimesByline?`. -/
theorem authors_extractFrom_newYorkTimes :
    (newYorkTimes.extractFrom page pageUrl).article.authors =
      ((newYorkTimesByline? page).map Text.keywords).getD [] := by
  have head (h : Head) :
      (newYorkTimes.fromHead h pageUrl.href {}).1.authors = Text.keywords h.author := by
    simp only [newYorkTimes, newYorkTimesHead_authors_content]
  have before : (newYorkTimes.beforeBody page pageUrl).authors =
      ((newYorkTimesByline? page).map Text.keywords).getD [] := by
    rw [authors_beforeBody page (fun _ ↦ rfl)]
    unfold headData newYorkTimesByline?
    cases page.first? newYorkTimes.layout.head with
    | none => rfl
    | some spot => simp only [Option.map_some, Option.getD_some, fromHeadAt, head]
  rw [article_extractFrom]
  cases page.first? newYorkTimes.layout.body with
  | none => exact before
  | some body =>
    dsimp only
    rw [authors_newYorkTimesBody, before]

variable {site : Site}

/-- The names of the sites that do not leave blank names out. -/
def careless : List String := [ettoday.name, setn.name, newYorkTimes.name]

/-- `Site.fromBody` of a site that is not `careless` keeps a record `Signed`. -/
theorem signed_fromBody (known : site ∈ Registry.knownSites) (careful : site.name ∉ careless)
    (body : Spot) {a : Article} (h : a.Signed) : (site.fromBody body a).1.Signed := by
  by_cases agency : site.name = newsAgency.name
  · induction site, known using Registry.known_cases with
    | newsAgency => simpa only [newsAgency] using signed_newsAgencyBody body h
    | _ => exact absurd agency (by decide)
  · have other : site.name ∉ [newsAgency.name, ettoday.name, setn.name] := by
      simp only [careless, List.mem_cons, not_or] at careful ⊢
      exact ⟨agency, careful.1, careful.2.1, List.not_mem_nil⟩
    exact (attributed_fromBody body a known other).signed h

/-- The records of sites that are not `careless` are `Signed`. -/
theorem signed_extractFrom (known : site ∈ Registry.knownSites) (careful : site.name ∉ careless) :
    (site.extractFrom page pageUrl).article.Signed := by
  have other : site.name ≠ newYorkTimes.name := by
    intro name
    rw [name] at careful
    exact absurd careful (by decide)
  have before := signed_beforeBody page known other pageUrl
  rw [article_extractFrom]
  cases page.first? site.layout.body with
  | none => exact before
  | some body => exact signed_fromBody known careful body before

/-- No page `Slips` for a site that is not `careless`. -/
theorem not_slips (careful : site.name ∉ careless) : ¬ site.Slips page := by
  intro slips
  cases slips with
  | nobody name => exact careful (by simp [careless, name])
  | noDesk name => exact careful (by simp [careless, name])
  | writer name => exact careful (by simp [careless, name])
  | escape name => exact careful (by simp [careless, name])

/-- `extractFrom` of a page is `Signed` exactly if the site does not slip on it. -/
theorem signed_extractFrom_iff (known : site ∈ Registry.knownSites) :
    (site.extractFrom page pageUrl).article.Signed ↔ ¬ site.Slips page := by
  by_cases careful : site.name ∈ careless
  · induction site, known using Registry.known_cases with
    | ettoday =>
      rw [Signed, authors_extractFrom_ettoday, forall_mem_byline]
      simp only [Byline.neat_reportersOrDesk_iff]
      constructor
      · intro full slips
        cases slips with
        | nobody _ found empty => exact full _ found empty
        | noDesk name => exact absurd name (by decide)
        | writer name => exact absurd name (by decide)
        | escape name => exact absurd name (by decide)
      · intro clean byline found empty
        exact clean (.nobody rfl found empty)
    | setn =>
      rw [Signed, authors_extractFrom_setn, forall_mem_byline]
      simp only [Byline.neat_deskOrWriter_iff]
      constructor
      · intro full slips
        cases slips with
        | nobody name => exact absurd name (by decide)
        | noDesk _ found empty => exact full _ found (.inl empty)
        | writer _ found loose => exact full _ found (.inr loose)
        | escape name => exact absurd name (by decide)
      · rintro clean byline found (empty | loose)
        · exact clean (.noDesk rfl found empty)
        · exact clean (.writer rfl found loose)
    | newYorkTimes =>
      rw [Signed, authors_extractFrom_newYorkTimes, forall_mem_byline]
      simp only [Text.neat_keywords_iff]
      constructor
      · intro plain slips
        cases slips with
        | nobody name => exact absurd name (by decide)
        | noDesk name => exact absurd name (by decide)
        | writer name => exact absurd name (by decide)
        | escape _ found mem escaped full bad =>
          exact plain _ found ⟨_, mem, escaped, full, bad⟩
      · rintro clean byline found ⟨piece, mem, escaped, full, bad⟩
        exact clean (.escape rfl found mem escaped full bad)
    | _ => exact absurd careful (by decide)
  · exact iff_of_true (signed_extractFrom page pageUrl known careful) (not_slips page careful)

/-- The authors that `Site.extract` gives have names that are `Text.Neat` exactly if the page does not make the
site slip. -/
theorem neat_authors_extract_iff (known : site ∈ Registry.knownSites) (html : String) :
    (∀ name ∈ (site.extract html pageUrl).article.authors, Text.Neat name) ↔
      ¬ site.Slips (Document.parse html) :=
  signed_extractFrom_iff (Document.parse html) pageUrl known

end Records

/-! ## A page that makes its site slip -/

/-- A page of ETtoday with a byline in which nobody is named. -/
def unsignedStory : String :=
  "<article><div class=story itemprop=articleBody><p>／台北報導"

theorem slips_unsignedStory : ettoday.Slips (Document.parse unsignedStory) := by
  have spots := Document.spots_of_pairwise (Document.parse unsignedStory) (by decide +kernel)
  have found : ettodayByline? (Document.parse unsignedStory) = some "／台北報導" := by
    simp only [ettodayByline?, Document.first?, Document.all, spots]
    decide +kernel
  exact .nobody rfl found (by decide +kernel)

/-- The record that `ettoday` makes of `unsignedStory` does not name its authors by neat names. -/
theorem neat_authors_extract_unsignedStory :
    ettoday ∈ Registry.knownSites ∧
      ¬ ∀ name ∈ (ettoday.extract unsignedStory frontPage).article.authors, Text.Neat name := by
  have known : ettoday ∈ Registry.knownSites := by simp [Registry.knownSites]
  exact ⟨known, mt (neat_authors_extract_iff frontPage known unsignedStory).1
    (not_not_intro slips_unsignedStory)⟩

/-- So authors do not always have neat names. -/
theorem not_forall_neat_authors :
    ¬ ∀ site ∈ Registry.knownSites, ∀ (html : String) (pageUrl : Url),
      ∀ name ∈ (site.extract html pageUrl).article.authors, Text.Neat name := by
  intro always
  have known : ettoday ∈ Registry.knownSites := by simp [Registry.knownSites]
  have signed := always ettoday known unsignedStory frontPage
  unfold extract at signed
  have iff := signed_extractFrom_iff (Document.parse unsignedStory) frontPage known
  exact iff.1 signed slips_unsignedStory

end Site

end Gazette
