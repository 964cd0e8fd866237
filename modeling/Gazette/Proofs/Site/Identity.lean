import Gazette.Proofs.Site.Precedence

/-!
# The identifier of a record

The identifier of an article follows from its address: `Article.IdentifiedBy`. Each of the two drafts of a page
keeps to that, and so does the record made of them, unless the linked data name an address without identifier
and the head another address that has one: then the record has the address of the former and the identifier of
the latter. `Article.Parts` says that it is so, and `guid_extract_eq_iff` that it is the only exception.
-/

namespace Gazette

open Html

namespace Article

variable {guid : Url → String} {a b : Article}

theorem IdentifiedBy.guid_eq (h : a.IdentifiedBy guid) {link : Url} (hlink : a.link = some link) :
    a.guid = guid link := by
  rw [h, hlink]
  rfl

theorem IdentifiedBy.guid_eq_empty (h : a.IdentifiedBy guid) (hlink : a.link = none) :
    a.guid = "" := by
  rw [h, hlink]
  rfl

/-- Address and identifier part: the record `a` has an address without identifier, and the record `b` an address
with an identifier. -/
def Parts (guid : Url → String) (a b : Article) : Prop :=
  ∃ l h, a.link = some l ∧ b.link = some h ∧ guid l = "" ∧ guid h ≠ ""

end Article

namespace Site

section Drafts

variable (site : Site)

/-- `fromScripts` leaves a draft as it is, or fills it by `fillLinkedData`. -/
theorem fromScripts_fst (scripts : List String) (address : String) (draft : Article) :
    (site.fromScripts scripts address draft).1 = draft ∨
      ∃ data, (site.fromScripts scripts address draft).1 = site.fillLinkedData data draft := by
  unfold fromScripts
  split
  · cases site.block? scripts with
    | none => exact .inl rfl
    | some block =>
      dsimp only
      cases LinkedData.decode (site.mend block) address with
      | ok data => exact .inr ⟨data, rfl⟩
      | error failure => exact .inl rfl
  · exact .inl rfl

variable {site}

/-- `fillLinkedData` of the empty draft is `IdentifiedBy` the site. -/
theorem Conventional.identifiedBy_fillLinkedData (h : site.Conventional) (data : LinkedData) :
    (site.fillLinkedData data {}).IdentifiedBy site.guid := by
  unfold fillLinkedData Article.IdentifiedBy
  rw [(h.afterLinkedData data _).1, (h.afterLinkedData data _).2]
  cases data.link <;> rfl

/-- `Site.linkedData` is `IdentifiedBy` the site. -/
theorem Conventional.identifiedBy_linkedData (h : site.Conventional) (page : Document)
    (address : String) : (site.linkedData page address).IdentifiedBy site.guid := by
  unfold linkedData
  split
  next draft filled =>
    have left := site.fromScripts_fst ((page.all site.layout.linkedData).map Spot.text) address {}
    rw [filled] at left
    rcases (left : draft = {} ∨ ∃ data, draft = site.fillLinkedData data {}) with rfl | ⟨data, rfl⟩
    · exact Article.identifiedBy_empty site.guid
    · exact h.identifiedBy_fillLinkedData data
  · exact Article.identifiedBy_empty site.guid

/-- `Site.headData` is `IdentifiedBy` the site. -/
theorem Conventional.identifiedBy_headData (h : site.Conventional) (page : Document)
    (address : String) : (site.headData page address).IdentifiedBy site.guid := by
  unfold headData
  cases page.first? site.layout.head with
  | none => exact Article.identifiedBy_empty site.guid
  | some head => exact h.fromHead _ address

end Drafts

section Record

variable {site : Site} (page : Document) (pageUrl : Url)

/-- The record made of two drafts that are `IdentifiedBy` the site bears the identifier of its own address, unless
the two `Parts`. -/
theorem guid_complete_merge {a b : Article} (ha : a.IdentifiedBy site.guid)
    (hb : b.IdentifiedBy site.guid) {link : Url}
    (hlink : (site.complete page pageUrl (a.merge b)).link = some link) :
    (site.complete page pageUrl (a.merge b)).guid = site.guid link ↔ ¬ Article.Parts site.guid a b := by
  obtain rfl : (a.link.or b.link).getD pageUrl = link := Option.some.inj hlink
  have guid : (site.complete page pageUrl (a.merge b)).guid =
      if a.guid ≠ "" then a.guid else if b.guid ≠ "" then b.guid
        else site.guid ((a.link.or b.link).getD pageUrl) := by
    simp only [complete, Article.merge, Article.firstText_eq, String.isEmpty_iff]
    split_ifs <;> simp_all
  rw [guid]
  cases la : a.link with
  | none =>
    have parts : ¬ Article.Parts site.guid a b := by simp [Article.Parts, la]
    rw [ha.guid_eq_empty la]
    cases lb : b.link with
    | none => simp [parts, hb.guid_eq_empty lb]
    | some h => by_cases empty : site.guid h = "" <;> simp [parts, hb.guid_eq lb, empty]
  | some l =>
    rw [ha.guid_eq la]
    cases lb : b.link with
    | none =>
      have parts : ¬ Article.Parts site.guid a b := by simp [Article.Parts, lb]
      simp [parts, hb.guid_eq_empty lb]
    | some h =>
      -- The address is that of the first draft, but the identifier may be that of the other one.
      have parts : Article.Parts site.guid a b ↔ site.guid l = "" ∧ site.guid h ≠ "" := by
        simp [Article.Parts, la, lb]
      rw [hb.guid_eq lb, parts]
      by_cases none : site.guid l = ""
      · by_cases other : site.guid h = "" <;> simp [none, other]
      · simp [none]

/-- The record of a page has an address; it is that of the first draft that has one, or else that of the page. -/
theorem Conventional.link_extractFrom (h : site.Conventional) :
    (site.extractFrom page pageUrl).article.link =
      some (((site.linkedData page pageUrl.href).link.or
        (site.headData page pageUrl.href).link).getD pageUrl) := by
  have link := congrArg Outline.link (h.outline_extractFrom page pageUrl)
  exact link

/-- The record of a page bears the identifier of its own address exactly if linked data and head do not part
address and identifier. -/
theorem Conventional.guid_extractFrom (h : site.Conventional) {link : Url}
    (hlink : (site.extractFrom page pageUrl).article.link = some link) :
    (site.extractFrom page pageUrl).article.guid = site.guid link ↔
      ¬ Article.Parts site.guid (site.linkedData page pageUrl.href)
        (site.headData page pageUrl.href) := by
  have guid : (site.extractFrom page pageUrl).article.guid = (site.beforeBody page pageUrl).guid :=
    congrArg Outline.guid (h.outline_extractFrom page pageUrl)
  rw [guid]
  refine guid_complete_merge page pageUrl (h.identifiedBy_linkedData page pageUrl.href)
    (h.identifiedBy_headData page pageUrl.href) ?_
  rw [← hlink, h.link_extractFrom]
  rfl

/-- The record that `Site.extract` gives has an address, and it bears the identifier of that address exactly if
`Parts` does not hold of linked data and head. -/
theorem guid_extract_eq_iff (known : site ∈ Registry.knownSites) (html : String) :
    let page := Document.parse html
    let a := (site.extract html pageUrl).article
    ∃ link, a.link = some link ∧
      (a.guid = site.guid link ↔
        ¬ Article.Parts site.guid (site.linkedData page pageUrl.href)
          (site.headData page pageUrl.href)) := by
  intro page a
  have conventional := conventional_of_known known
  have link : a.link = _ := conventional.link_extractFrom page pageUrl
  exact ⟨_, link, conventional.guid_extractFrom page pageUrl link⟩

end Record

/-! ## A page that parts them -/

/-- A page whose linked data name an address without identifier, and whose head names one with an identifier. -/
def twoAddresses : String :=
  "<link rel=canonical href='?NewsID=1'><script type=application/ld+json>" ++
    "\x7b\"@type\":\"NewsArticle\",\"url\":\"http://[::1]/\"\x7d</script>"

/-- The address that the linked data of `twoAddresses` name; it is also where the page stands. -/
def frontPage : Url :=
  ⟨"http".toList, some ⟨[], none, some (.ipv6 [0, 0, 0, 0, 0, 0, 0, 1]), none⟩, "/".toList, none, none⟩

theorem parts_twoAddresses :
    Article.Parts setn.guid (setn.linkedData (Document.parse twoAddresses) frontPage.href)
      (setn.headData (Document.parse twoAddresses) frontPage.href) := by
  have spots := Document.spots_of_pairwise (Document.parse twoAddresses) (by decide +kernel)
  refine ⟨frontPage, { frontPage with query := some "NewsID=1".toList }, ?_, ?_, ?_, ?_⟩
  · simp only [linkedData, Document.all, spots]
    decide +kernel
  · simp only [headData, Document.first?, Document.all, spots]
    decide +kernel
  · decide +kernel
  · decide +kernel

/-- The record that `setn` makes of `twoAddresses` does not bear the identifier of its address. -/
theorem guid_extract_twoAddresses :
    setn ∈ Registry.knownSites ∧
      ∃ link, (setn.extract twoAddresses frontPage).article.link = some link ∧
        (setn.extract twoAddresses frontPage).article.guid ≠ setn.guid link := by
  have known : setn ∈ Registry.knownSites := by simp [Registry.knownSites]
  obtain ⟨link, hlink, guid⟩ := guid_extract_eq_iff frontPage known twoAddresses
  exact ⟨known, link, hlink, mt guid.1 (not_not_intro parts_twoAddresses)⟩

/-- So records do not always bear the identifier of their address. -/
theorem not_forall_guid_extract :
    ¬ ∀ site ∈ Registry.knownSites, ∀ (html : String) (pageUrl : Url),
      ∃ link, (site.extract html pageUrl).article.link = some link ∧
        (site.extract html pageUrl).article.guid = site.guid link := by
  intro always
  have known : setn ∈ Registry.knownSites := by simp [Registry.knownSites]
  have conventional := conventional_of_known known
  obtain ⟨link, hlink, own⟩ := always setn known twoAddresses frontPage
  unfold extract at hlink own
  have iff := conventional.guid_extractFrom (Document.parse twoAddresses) frontPage hlink
  exact iff.1 own parts_twoAddresses

end Site

end Gazette
