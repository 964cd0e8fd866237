import Gazette.Proofs.Site.Identity

/-!
# What drafts leave to the body

Linked data and head bring no paragraphs: `content_linkedData`, `content_headData`. A head names authors on the
pages of the New York Times alone (`fromHead_authors_content`), and linked data, where a site reads authors off
them, leave out names that are blank.
-/

namespace Gazette

open Html

/-- `Head.fill` keeps authors and paragraphs of a draft. -/
theorem Head.fill_authors_content (h : Head) (pageUrl : String) (guid : Url → String)
    (draft : Article) :
    (h.fill pageUrl guid draft).1.authors = draft.authors ∧
      (h.fill pageUrl guid draft).1.content = draft.content := by
  unfold Head.fill
  cases h.link? pageUrl with
  | ok link => cases link <;> exact ⟨rfl, rfl⟩
  | error failure => exact ⟨rfl, rfl⟩

namespace Title

variable (mark title : String) (draft : Article)

/-- `Title.threePieces` keeps authors and paragraphs of a draft. -/
theorem threePieces_authors_content :
    (threePieces mark title draft).authors = draft.authors ∧
      (threePieces mark title draft).content = draft.content := by
  unfold threePieces
  split <;> exact ⟨rfl, rfl⟩

/-- `Title.leadingPieces` keeps authors and paragraphs of a draft. -/
theorem leadingPieces_authors_content :
    (leadingPieces mark title draft).authors = draft.authors ∧
      (leadingPieces mark title draft).content = draft.content := by
  unfold leadingPieces
  split <;> exact ⟨rfl, rfl⟩

end Title

namespace Site

open Article

variable {site : Site} (page : Document) (address : String)

/-! ## The draft of the head -/

/-- But for the New York Times `Site.fromHead` brings neither authors nor paragraphs. -/
theorem fromHead_authors_content (known : site ∈ Registry.knownSites)
    (other : site.name ≠ newYorkTimes.name) (head : Head) :
    (site.fromHead head address {}).1.authors = [] ∧
      (site.fromHead head address {}).1.content = [] := by
  have filled (guid : Url → String) := head.fill_authors_content address guid {}
  induction site, known using Registry.known_cases with
  | newsAgency => simpa only [newsAgency, Title.threePieces_authors_content] using filled _
  | chinaTimes => simpa only [chinaTimes, Title.leadingPieces_authors_content] using filled _
  | ettoday => simpa only [ettoday] using filled _
  | libertyTimes => simpa only [libertyTimes, Title.leadingPieces_authors_content] using filled _
  | unitedDaily => simpa only [unitedDaily] using filled _
  | bbc => simpa only [bbc, bbcHead] using filled _
  | newYorkTimes => exact absurd rfl other
  | publicTelevision => simpa only [publicTelevision] using filled _
  | radioFrance => simpa only [radioFrance, Title.whole] using filled _
  | setn => simpa only [setn] using filled _
  | tvbs => simpa only [tvbs] using filled _
  | upMedia => simpa only [upMedia] using filled _

/-- `newYorkTimesHead` brings the authors of its byline, and no paragraphs. -/
theorem newYorkTimesHead_authors_content (head : Head) :
    (newYorkTimesHead head address {}).1.authors = Text.keywords head.author ∧
      (newYorkTimesHead head address {}).1.content = [] := by
  have filled := head.fill_authors_content address Identifier.byInnerPath {}
  simp only [newYorkTimesHead, filled.2, and_self]

/-- `Site.fromHead` brings no paragraphs. -/
theorem content_fromHead (known : site ∈ Registry.knownSites) (head : Head) :
    (site.fromHead head address {}).1.content = [] := by
  by_cases name : site.name = newYorkTimes.name
  · induction site, known using Registry.known_cases with
    | newYorkTimes => simp only [newYorkTimes, newYorkTimesHead_authors_content address head]
    | _ => exact absurd name (by decide)
  · exact (fromHead_authors_content address known name head).2

theorem content_headData (known : site ∈ Registry.knownSites) :
    (site.headData page address).content = [] := by
  unfold headData
  cases page.first? site.layout.head with
  | none => rfl
  | some head => exact content_fromHead address known _

/-- But for the New York Times `Site.headData` has no authors. -/
theorem authors_headData (known : site ∈ Registry.knownSites)
    (other : site.name ≠ newYorkTimes.name) : (site.headData page address).authors = [] := by
  unfold headData
  cases page.first? site.layout.head with
  | none => rfl
  | some head => exact (fromHead_authors_content address known other _).1

/-! ## The draft of the linked data -/

variable (site) in
/-- `Site.linkedData` is empty or what `fillLinkedData` makes of the empty draft. -/
theorem linkedData_cases :
    site.linkedData page address = {} ∨
      ∃ data, site.linkedData page address = site.fillLinkedData data {} := by
  unfold linkedData
  split
  next draft filled =>
    have left := site.fromScripts_fst ((page.all site.layout.linkedData).map Spot.text) address {}
    rw [filled] at left
    exact left
  next => exact .inl rfl

/-- `Site.linkedData` has no paragraphs. -/
theorem content_linkedData (known : site ∈ Registry.knownSites) :
    (site.linkedData page address).content = [] := by
  rcases linkedData_cases site page address with empty | ⟨data, filled⟩
  · rw [empty]
  · rw [filled]
    induction site, known using Registry.known_cases with
    | tvbs => simp only [fillLinkedData, tvbs]
    | _ => rfl

end Site

end Gazette
