import Gazette.Proofs.Site.Decoding
import Gazette.Proofs.Site.Identity
import Gazette.Proofs.Site.Links

/-!
# What comes to the issues

All that fails on a page is noted: the linked data under `jsonld` and the head under `meta` (`draftIssues`), a
missing body under `body`, and a link that leads nowhere under its own text. The links come last, so one whose
text is `jsonld` or `meta` takes the place of what was noted there. Such a text is a relative path; it leads
somewhere unless nothing can be resolved against the address of the record. `Site.Shadowed` says that a part is
lost in this way. Nothing else is ever lost: `reported_extract`.
-/

namespace Gazette

open Html

/-! ## Kinds of failures -/

/-- A failure of `Head.link?` is of the kind `FailureKind.extract`. -/
theorem Head.kind_of_link? {h : Head} {pageUrl : String} {failure : Failure}
    (failed : h.link? pageUrl = .error failure) : failure.kind = .extract := by
  simp only [link?] at failed
  split at failed
  · cases failed
  · split at failed
    · cases failed
    · split at failed
      · cases failed
      · cases failed
        rfl

/-- A failure of `Head.fill` is of the kind `FailureKind.extract`. -/
theorem Head.kind_of_fill {h : Head} {pageUrl : String} {guid : Url → String} {draft : Article}
    {failure : Failure} (failed : (h.fill pageUrl guid draft).2 = some failure) :
    failure.kind = .extract := by
  unfold fill at failed
  cases link : h.link? pageUrl with
  | ok found =>
    rw [link] at failed
    cases found <;> cases failed
  | error e =>
    rw [link] at failed
    cases failed
    exact kind_of_link? link

namespace Site

variable {site : Site} (page : Document) (pageUrl : Url) {failure : Failure}

/-- `Site.fromHead` of a known site fails as `Head.fill` does. -/
theorem fromHead_snd (known : site ∈ Registry.knownSites) (head : Head) (address : String) :
    (site.fromHead head address {}).2 = (head.fill address site.guid {}).2 := by
  induction site, known using Registry.known_cases with
  | newsAgency => simp only [newsAgency]
  | chinaTimes => simp only [chinaTimes]
  | ettoday => simp only [ettoday]
  | libertyTimes => simp only [libertyTimes]
  | unitedDaily => simp only [unitedDaily]
  | bbc => simp only [bbc, bbcHead]
  | newYorkTimes => simp only [newYorkTimes, newYorkTimesHead]
  | publicTelevision => simp only [publicTelevision]
  | radioFrance => simp only [radioFrance]
  | setn => simp only [setn]
  | tvbs => simp only [tvbs]
  | upMedia => simp only [upMedia]

/-- A failure of `Site.headDraft` is of the kind `FailureKind.extract`. -/
theorem kind_of_headDraft (known : site ∈ Registry.knownSites) {address : String}
    (failed : (site.headDraft page address).2 = some failure) : failure.kind = .extract := by
  unfold headDraft at failed
  cases found : page.first? site.layout.head with
  | none =>
    rw [found] at failed
    cases failed
  | some head =>
    rw [found] at failed
    dsimp only at failed
    rw [fromHeadAt, fromHead_snd known] at failed
    exact Head.kind_of_fill failed

/-! ## Issues of a page -/

/-- The issues of a page before its body is read. -/
def draftIssues (site : Site) (address : String) : Issues :=
  note (note Table.empty "jsonld" (site.linkedDraft page address).2) "meta"
    (site.headDraft page address).2

/-- The failure that a page has no body. -/
def missingBody (site : Site) (address : String) : Failure :=
  .of .extract address "ParseBody" (some (.noElement site.layout.body))

/-- Among `draftIssues` there are at most the failures of linked data and head. -/
theorem get?_draftIssues (address key : String) :
    (site.draftIssues page address).get? key =
      if key = "meta" then (site.headDraft page address).2
      else if key = "jsonld" then (site.linkedDraft page address).2 else none := by
  rw [draftIssues, get?_note, get?_note, Table.get?_empty, Option.or_none]
  by_cases part : key = "meta"
  · simp [part]
  · rw [if_neg part, if_neg part]

/-- `extractFrom` adds to `draftIssues` the issues of the body, or that it is missing. -/
theorem issues_extractFrom :
    (site.extractFrom page pageUrl).issues =
      match page.first? site.layout.body with
      | some body => (site.draftIssues page pageUrl.href).extend
          (site.fromBody body (site.beforeBody page pageUrl)).2
      | none => (site.draftIssues page pageUrl.href).insert "body" (site.missingBody pageUrl.href) := by
  unfold extractFrom beforeBody
  rw [← linkedDraft_fst, ← headDraft_fst]
  cases page.first? site.layout.body <;> rfl

section Records

variable (known : site ∈ Registry.knownSites)
include known

/-- The record of a page has the address and the host of `beforeBody`. -/
theorem link_source_extractFrom :
    (site.extractFrom page pageUrl).article.link = (site.beforeBody page pageUrl).link ∧
      (site.extractFrom page pageUrl).article.source = (site.beforeBody page pageUrl).source := by
  have link : (site.extractFrom page pageUrl).article.link = (site.beforeBody page pageUrl).link :=
    congrArg Outline.link ((conventional_of_known known).outline_extractFrom page pageUrl)
  refine ⟨link, ?_⟩
  unfold Article.source
  rw [link]

/-- Under each key there is the failure of the link that bears it, or else that of `draftIssues`. -/
theorem get?_issues_extractFrom {body : Spot} (found : page.first? site.layout.body = some body)
    (key : String) :
    (site.extractFrom page pageUrl).issues.get? key =
      (if key ∈ site.followed body (site.extractFrom page pageUrl).article.source then
          linkFailure? (site.extractFrom page pageUrl).article.link key
        else none).or ((site.draftIssues page pageUrl.href).get? key) := by
  obtain ⟨link, source⟩ := link_source_extractFrom page pageUrl known
  have links := ofLinks_fromBody known body (site.beforeBody page pageUrl) key
  rw [issues_extractFrom, found, link, source, ← links]
  exact Issues.get?_extend _ _ key

end Records

/-! ## Hidden failures -/

/-- What is noted under a part of a page is lost: a link that is `followed` bears the name of the part as its
text, and nothing can be resolved against the address of the record. -/
def Shadowed (site : Site) (page : Document) (pageUrl : Url) (part : String) : Prop :=
  ∃ body link, page.first? site.layout.body = some body ∧
    part ∈ site.followed body (site.extractFrom page pageUrl).article.source ∧
    (site.extractFrom page pageUrl).article.link = some link ∧ link.isOpaque

/-- The name of a part is a link that cannot be resolved exactly against an opaque address. -/
theorem linkFailure?_part_eq_none_iff {part : String} (name : part = "jsonld" ∨ part = "meta")
    {link : Url} : linkFailure? (some link) part = none ↔ ¬ link.isOpaque := by
  have fails : (∃ e, Url.resolve (some link) part = .error e) ↔ link.isOpaque := by
    rcases name with rfl | rfl
    · have clean : Url.tidy (Chars.trim "jsonld".toList) = 'j' :: "sonld".toList := by decide
      exact Url.exists_resolve_eq_error_iff clean (by decide) (by decide) (by decide) (by decide)
    · have clean : Url.tidy (Chars.trim "meta".toList) = 'm' :: "eta".toList := by decide
      exact Url.exists_resolve_eq_error_iff clean (by decide) (by decide) (by decide) (by decide)
  rw [← fails]
  unfold linkFailure?
  cases Url.resolve (some link) part <;> simp

/-- What is noted under a part, and is no failure of a link, is among the issues exactly if the part is not
`Shadowed`. -/
theorem mem_values_iff_not_shadowed (known : site ∈ Registry.knownSites) {part : String}
    (name : part = "jsonld" ∨ part = "meta")
    (noted : (site.draftIssues page pageUrl.href).get? part = some failure)
    (noLink : failure.kind ≠ .relatedLink)
    (alone : ∀ key other, key ≠ part →
      (site.draftIssues page pageUrl.href).get? key = some other → other.kind ≠ failure.kind) :
    failure ∈ (site.extractFrom page pageUrl).issues.values ↔ ¬ site.Shadowed page pageUrl part := by
  rw [Table.mem_values_iff]
  cases found : page.first? site.layout.body with
  | none =>
    refine iff_of_true ⟨part, ?_⟩ ?_
    · have notBody : part ≠ "body" := by
        rcases name with rfl | rfl <;> decide
      rw [issues_extractFrom, found]
      simp only [Table.get?_insert, notBody, if_false, noted]
    · rintro ⟨body, link, some, -⟩
      rw [found] at some
      cases some
  | some body =>
    obtain ⟨link, hlink⟩ : ∃ link, (site.extractFrom page pageUrl).article.link = some link :=
      ⟨_, (conventional_of_known known).link_extractFrom page pageUrl⟩
    have get := get?_issues_extractFrom page pageUrl known found
    simp only [hlink] at get
    constructor
    · rintro ⟨key, here⟩ ⟨body', link', found', followed, hlink', closed⟩
      obtain rfl : body = body' := Option.some.inj (found.symm.trans found')
      obtain rfl : link = link' := Option.some.inj (hlink.symm.trans hlink')
      have hidden : linkFailure? (some link) part ≠ none := fun resolved ↦
        (linkFailure?_part_eq_none_iff name).1 resolved closed
      rw [get] at here
      -- The failure is neither one of a link nor one of another part, and under its own part stands a link.
      rcases Option.or_eq_some_iff.1 here with failed | ⟨resolved, drafted⟩
      · split at failed
        · exact noLink (kind_of_linkFailure? failed)
        · cases failed
      · refine alone key failure ?_ drafted rfl
        rintro rfl
        rw [if_pos followed] at resolved
        exact hidden resolved
    · intro clear
      refine ⟨part, ?_⟩
      rw [get, noted]
      split
      next followed =>
        have resolved : linkFailure? (some link) part = none :=
          (linkFailure?_part_eq_none_iff name).2 fun closed ↦
            clear ⟨body, link, found, followed, hlink, closed⟩
        rw [resolved, Option.none_or]
      next => rw [Option.none_or]

/-- A failure to decode linked data is among the issues exactly if `jsonld` is not `Shadowed`. -/
theorem mem_values_jsonld_iff (known : site ∈ Registry.knownSites)
    (failed : (site.fromScripts (site.scriptsOf page) pageUrl.href {}).2 = some failure)
    (kind : failure.kind = .linkedDataDecode) :
    failure ∈ (site.extractFrom page pageUrl).issues.values ↔
      ¬ site.Shadowed page pageUrl "jsonld" := by
  refine mem_values_iff_not_shadowed page pageUrl known (.inl rfl) ?_ (by simp [kind])
    fun key other part noted ↦ ?_
  · rw [get?_draftIssues, if_neg (by decide), if_pos rfl]
    exact (site.draftOf_snd_iff).2 ⟨failed, kind⟩
  · rw [get?_draftIssues, if_neg part] at noted
    split at noted
    · rw [kind, kind_of_headDraft page known noted]
      decide
    · cases noted

/-- A failure of the head is among the issues exactly if `meta` is not `Shadowed`. -/
theorem mem_values_meta_iff (known : site ∈ Registry.knownSites)
    (failed : (site.headDraft page pageUrl.href).2 = some failure) :
    failure ∈ (site.extractFrom page pageUrl).issues.values ↔
      ¬ site.Shadowed page pageUrl "meta" := by
  have kind := kind_of_headDraft page known failed
  refine mem_values_iff_not_shadowed page pageUrl known (.inr rfl) ?_ (by simp [kind])
    fun key other part noted ↦ ?_
  · rw [get?_draftIssues, if_pos rfl]
    exact failed
  · rw [get?_draftIssues, if_neg part] at noted
    split at noted
    · rw [kind, (site.draftOf_snd_iff.1 noted).2]
      decide
    · cases noted

/-- A link that is `followed` and cannot be resolved is among the issues. -/
theorem mem_values_of_broken_link (known : site ∈ Registry.knownSites) {body : Spot} {href : String}
    {e : UrlError} (found : page.first? site.layout.body = some body)
    (followed : href ∈ site.followed body (site.extractFrom page pageUrl).article.source)
    (broken : Url.resolve (site.extractFrom page pageUrl).article.link href = .error e) :
    .of .relatedLink href "ParseBody" (some (.badHref href e)) ∈
      (site.extractFrom page pageUrl).issues.values := by
  refine Table.mem_values_iff.2 ⟨href, ?_⟩
  rw [get?_issues_extractFrom page pageUrl known found, if_pos followed, linkFailure?, broken,
    Option.some_or]

/-- A missing body is among the issues. -/
theorem mem_values_of_missing_body (missing : page.first? site.layout.body = none) :
    .of .extract pageUrl.href "ParseBody" (some (.noElement site.layout.body)) ∈
      (site.extractFrom page pageUrl).issues.values := by
  refine Table.mem_values_iff.2 ⟨"body", ?_⟩
  rw [issues_extractFrom, missing, Table.get?_insert, if_pos rfl]
  rfl

/-- The failures of a page are all among the issues of `Site.extract`, but for those of linked data and head where
their part is `Shadowed`. -/
theorem reported_extract (known : site ∈ Registry.knownSites) (html : String) :
    let page := Document.parse html
    let record := (site.extract html pageUrl).article
    let issues := (site.extract html pageUrl).issues
    (∀ failure, (site.fromScripts (site.scriptsOf page) pageUrl.href {}).2 = some failure →
      failure.kind = .linkedDataDecode →
      (failure ∈ issues.values ↔ ¬ site.Shadowed page pageUrl "jsonld")) ∧
    (∀ failure, (site.headDraft page pageUrl.href).2 = some failure →
      (failure ∈ issues.values ↔ ¬ site.Shadowed page pageUrl "meta")) ∧
    (∀ body href e, page.first? site.layout.body = some body →
      href ∈ site.followed body record.source → Url.resolve record.link href = .error e →
      .of .relatedLink href "ParseBody" (some (.badHref href e)) ∈ issues.values) ∧
    (page.first? site.layout.body = none →
      .of .extract pageUrl.href "ParseBody" (some (.noElement site.layout.body)) ∈
        issues.values) := by
  intro page record issues
  refine ⟨fun failure failed kind ↦ ?_, fun failure failed ↦ ?_,
    fun body href e found followed broken ↦ ?_, fun missing ↦ ?_⟩
  · exact mem_values_jsonld_iff page pageUrl known failed kind
  · exact mem_values_meta_iff page pageUrl known failed
  · exact mem_values_of_broken_link page pageUrl known found followed broken
  · exact mem_values_of_missing_body page pageUrl missing

/-! ## A page with a failure that a link hides -/

/-- A page with a comma too many in its linked data, a canonical link against which nothing can be resolved, and a
link to a related article with the text `jsonld`. -/
def hiddenFailure : String :=
  "<link rel=canonical href='mailto:a'><script type=application/ld+json>" ++
    "\x7b\"@type\":\"NewsArticle\",\x7d</script>" ++
    "<div class=tagNewsArea><div class=tagNewsBox><div class=tagNews><a class=gt href=jsonld>"

/-- The canonical link of `hiddenFailure`. -/
def mailAddress : Url := ⟨"mailto".toList, none, ['a'], none, none⟩

/-- The linked data of `hiddenFailure` cannot be decoded, the one link that is followed bears the name of their
part, and the record has the canonical link for its address. -/
theorem hiddenFailure_reads :
    (setn.fromScripts (setn.scriptsOf (Document.parse hiddenFailure)) frontPage.href {}).2.map
        Failure.kind = some .linkedDataDecode ∧
      ((Document.parse hiddenFailure).first? setn.layout.body).map
        (fun body ↦ setn.followed body none) = some ["jsonld"] ∧
      (setn.beforeBody (Document.parse hiddenFailure) frontPage).link = some mailAddress := by
  have spots := Document.spots_of_pairwise (Document.parse hiddenFailure) (by decide +kernel)
  simp only [scriptsOf, beforeBody, linkedData, headData, Document.first?, Document.all, spots]
  decide +kernel

theorem fromScripts_hiddenFailure :
    ∃ failure, (setn.fromScripts (setn.scriptsOf (Document.parse hiddenFailure)) frontPage.href {}).2 =
      some failure ∧ failure.kind = .linkedDataDecode :=
  Option.map_eq_some_iff.1 hiddenFailure_reads.1

theorem shadowed_hiddenFailure :
    setn.Shadowed (Document.parse hiddenFailure) frontPage "jsonld" := by
  have known : setn ∈ Registry.knownSites := by simp [Registry.knownSites]
  obtain ⟨-, followed, link⟩ := hiddenFailure_reads
  obtain ⟨body, found, links⟩ := Option.map_eq_some_iff.1 followed
  have anyHost (source : Option String) : setn.followed body source = setn.followed body none := rfl
  refine ⟨body, mailAddress, found, ?_, ?_, by decide⟩
  · rw [anyHost, links]
    exact List.mem_singleton_self _
  · rw [(link_source_extractFrom _ _ known).1, link]

/-- The failure to decode the linked data of `hiddenFailure` is not among the issues. -/
theorem reported_extract_hiddenFailure :
    setn ∈ Registry.knownSites ∧
      ∃ failure, (setn.fromScripts (setn.scriptsOf (Document.parse hiddenFailure))
          frontPage.href {}).2 = some failure ∧ failure.kind = .linkedDataDecode ∧
        failure ∉ (setn.extract hiddenFailure frontPage).issues.values := by
  have known : setn ∈ Registry.knownSites := by simp [Registry.knownSites]
  obtain ⟨failure, failed, kind⟩ := fromScripts_hiddenFailure
  have iff := (reported_extract frontPage known hiddenFailure).1 failure failed kind
  exact ⟨known, failure, failed, kind, mt iff.1 (not_not_intro shadowed_hiddenFailure)⟩

/-- So failures are not always among the issues. -/
theorem not_forall_reported :
    ¬ ∀ site ∈ Registry.knownSites, ∀ (html : String) (pageUrl : Url) (failure : Failure),
      (site.fromScripts (site.scriptsOf (Document.parse html)) pageUrl.href {}).2 = some failure →
        failure.kind = .linkedDataDecode → failure ∈ (site.extract html pageUrl).issues.values := by
  intro always
  have known : setn ∈ Registry.knownSites := by simp [Registry.knownSites]
  obtain ⟨failure, failed, kind⟩ := fromScripts_hiddenFailure
  have reported := always setn known hiddenFailure frontPage failure failed kind
  unfold extract at reported
  have iff := mem_values_jsonld_iff (Document.parse hiddenFailure) frontPage known failed kind
  exact iff.1 reported shadowed_hiddenFailure

end Site

end Gazette
