import Gazette.Proofs.Head.Address
import Gazette.Proofs.Site.Conventions

/-!
# Heads with an address that cannot be read

Each site fills a draft from a head in its own way, `Site.fromHead`, but for the address all of them go by
`Head.fill`, and what they do behind it does not ask whether it failed. So an address that leads nowhere is
reported and costs a draft its address and its identifier, and the rest of the draft is the one of
`Head.withoutLink` (`fromHead_of_unreadable`). The BBC and the New York Times read the category off the text of
the address, be it readable or not: `categoryIn?`.
-/

namespace Gazette.Site

/-- The category that a site reads off the text of an address that cannot be read. -/
def categoryIn? (site : Site) (link : String) : Option String :=
  if site.name = bbc.name then Section.topicOf? (Text.trim link)
  else if site.name = newYorkTimes.name then Section.firstPieceOf? link
  else none

variable {site : Site} {head : Head} {pageUrl : String} {failure : Failure}

theorem categoryIn?_bbc (link : String) : bbc.categoryIn? link = Section.topicOf? (Text.trim link) := if_pos rfl

theorem categoryIn?_newYorkTimes (link : String) : newYorkTimes.categoryIn? link = Section.firstPieceOf? link := by
  rw [categoryIn?, if_neg (by decide), if_pos rfl]

/-- All sites but two have no `categoryIn?`. -/
theorem categoryIn?_of_other (notBbc : site.name ≠ bbc.name) (notTimes : site.name ≠ newYorkTimes.name)
    (link : String) : site.categoryIn? link = none := by
  rw [categoryIn?, if_neg notBbc, if_neg notTimes]

open Head in
/-- A site without `categoryIn?` fills the draft as `withoutLink`. -/
theorem fromHead_of_unreadable_of_other (known : site ∈ Registry.knownSites) (notBbc : site.name ≠ bbc.name)
    (notTimes : site.name ≠ newYorkTimes.name) (failed : head.link? pageUrl = .error failure) :
    site.fromHead head pageUrl {} = ((site.fromHead head.withoutLink pageUrl {}).1, some failure) := by
  induction site, known using Registry.known_cases with
  | newsAgency => simp only [newsAgency, fill_of_unreadable failed, title_withoutLink]
  | chinaTimes => simp only [chinaTimes, fill_of_unreadable failed, title_withoutLink]
  | ettoday => simp only [ettoday, fill_of_unreadable failed, title_withoutLink]
  | libertyTimes => simp only [libertyTimes, fill_of_unreadable failed, title_withoutLink]
  | unitedDaily => simp only [unitedDaily, fill_of_unreadable failed, title_withoutLink]
  | bbc => exact absurd rfl notBbc
  | newYorkTimes => exact absurd rfl notTimes
  | publicTelevision => simp only [publicTelevision, fill_of_unreadable failed, title_withoutLink]
  | radioFrance => simp only [radioFrance, fill_of_unreadable failed, title_withoutLink]
  | setn => simp only [setn, fill_of_unreadable failed, title_withoutLink, instantWithOffset?_withoutLink]
  | tvbs => simp only [tvbs, fill_of_unreadable failed, title_withoutLink]
  | upMedia => simp only [upMedia, fill_of_unreadable failed, title_withoutLink, instantWithOffset?_withoutLink]

theorem topicOf?_firstPieceOf?_withoutLink (head : Head) :
    Section.topicOf? (Text.trim head.withoutLink.link) = none ∧
      Section.firstPieceOf? head.withoutLink.link = none := by
  have topic : Section.topicOf? (Text.trim "") = none := by decide
  have piece : Section.firstPieceOf? "" = none := by decide
  exact ⟨topic, piece⟩

open Head in
/-- `bbcHead` fills the draft as `withoutLink`, but for the `Section.topicOf?` the address. -/
theorem bbcHead_of_unreadable (failed : head.link? pageUrl = .error failure) :
    bbcHead head pageUrl {} =
      ({ (bbcHead head.withoutLink pageUrl {}).1 with
          category := (Section.topicOf? (Text.trim head.link)).getD (bbcHead head.withoutLink pageUrl {}).1.category },
        some failure) := by
  simp only [bbcHead, fill_of_unreadable failed, link_fill_withoutLink, title_withoutLink, Option.map_none,
    Option.getD_none, topicOf?_firstPieceOf?_withoutLink]

open Head in
/-- `newYorkTimesHead` fills the draft as `withoutLink`, but for the `Section.firstPieceOf?` the address. -/
theorem newYorkTimesHead_of_unreadable (failed : head.link? pageUrl = .error failure) :
    newYorkTimesHead head pageUrl {} =
      ({ (newYorkTimesHead head.withoutLink pageUrl {}).1 with
          category := (Section.firstPieceOf? head.link).getD
            (newYorkTimesHead head.withoutLink pageUrl {}).1.category },
        some failure) := by
  simp only [newYorkTimesHead, fill_of_unreadable failed, link_fill_withoutLink, title_withoutLink,
    author_withoutLink, Option.map_none, Option.getD_none, topicOf?_firstPieceOf?_withoutLink]

section Known

variable (known : site ∈ Registry.knownSites)
include known

/-- `Site.fromHead` gives the failure of `Head.link?`, and but for the `categoryIn?` the address it fills the
draft as `withoutLink`. -/
theorem fromHead_of_unreadable (failed : head.link? pageUrl = .error failure) :
    site.fromHead head pageUrl {} =
      ({ (site.fromHead head.withoutLink pageUrl {}).1 with
          category := (site.categoryIn? head.link).getD (site.fromHead head.withoutLink pageUrl {}).1.category },
        some failure) := by
  by_cases isBbc : site.name = bbc.name
  · induction site, known using Registry.known_cases with
    | bbc =>
      have fromHead : bbc.fromHead = bbcHead := rfl
      rw [categoryIn?_bbc, fromHead, bbcHead_of_unreadable failed]
    | _ => exact absurd isBbc (by decide)
  · by_cases isTimes : site.name = newYorkTimes.name
    · induction site, known using Registry.known_cases with
      | newYorkTimes =>
        have fromHead : newYorkTimes.fromHead = newYorkTimesHead := rfl
        rw [categoryIn?_newYorkTimes, fromHead, newYorkTimesHead_of_unreadable failed]
      | _ => exact absurd isTimes (by decide)
    · rw [fromHead_of_unreadable_of_other known isBbc isTimes failed, categoryIn?_of_other isBbc isTimes,
        Option.getD_none]

theorem link_fromHead : (site.fromHead head pageUrl {}).1.link = (head.fill pageUrl site.guid {}).1.link := by
  induction site, known using Registry.known_cases with
  | newsAgency => simp only [newsAgency, Title.threePieces_link_guid]
  | chinaTimes => simp only [chinaTimes, Title.leadingPieces_link_guid]
  | ettoday => simp only [ettoday]
  | libertyTimes => simp only [libertyTimes, Title.leadingPieces_link_guid]
  | unitedDaily => simp only [unitedDaily]
  | bbc => simp only [bbc, bbcHead]
  | newYorkTimes => simp only [newYorkTimes, newYorkTimesHead]
  | publicTelevision => simp only [publicTelevision]
  | radioFrance => simp only [radioFrance, Title.whole]
  | setn => simp only [setn]
  | tvbs => simp only [tvbs]
  | upMedia => simp only [upMedia]

/-- Where `Head.link?` fails, `Site.fromHead` gives that failure and leaves `link` and `guid` of the draft out;
all else is as for `withoutLink`, but for a category that the BBC and the New York Times still read off the text
of the address. -/
theorem unreadable_link_fromHead (failed : head.link? pageUrl = .error failure) :
    let draft := (site.fromHead head pageUrl {}).1
    let without := (site.fromHead head.withoutLink pageUrl {}).1
    (∃ e, failure = .of .extract pageUrl "ParseMeta" (some (.badLink head.linkText e))) ∧
      (site.fromHead head pageUrl {}).2 = some failure ∧
      draft.link = none ∧ draft.guid = "" ∧
      draft = { without with category := (site.categoryIn? head.link).getD without.category } ∧
      (site.name ≠ bbc.name → site.name ≠ newYorkTimes.name → draft = without) := by
  intro draft without
  have filled : site.fromHead head pageUrl {} =
      ({ without with category := (site.categoryIn? head.link).getD without.category }, some failure) :=
    fromHead_of_unreadable known failed
  have link : draft.link = none := by
    simp only [draft, link_fromHead known, Head.fill_of_unreadable failed, Head.link_fill_withoutLink]
  have guid : draft.guid = (draft.link.map site.guid).getD "" := (conventional_of_known known).fromHead head pageUrl
  refine ⟨?_, ?_, link, ?_, ?_, fun notBbc notTimes ↦ ?_⟩
  · rw [Head.link?_eq_addressAt] at failed
    obtain ⟨e, -, told⟩ := Head.exists_of_addressAt_eq_error failed
    exact ⟨e, told⟩
  · rw [filled]
  · rw [guid, link]
    rfl
  · exact congrArg Prod.fst filled
  · have same := congrArg Prod.fst (fromHead_of_unreadable_of_other known notBbc notTimes failed)
    exact same

end Known

/-! ## A head of the New York Times -/

/-- A head with an address in which a bracket is open. -/
def openBracket : Head where
  title := "標題 - 紐約時報中文網"
  link := "http://[cn.nytimes.com/china/20230904/"
  category := "國際"
  author := "王小明"

/-- The address of `openBracket` cannot be read: that is returned, the category comes from the text of the
address, and the rest of the draft from the rest of the head. -/
theorem unreadable_link_fromHead_openBracket :
    newYorkTimes ∈ Registry.knownSites ∧ ∃ failure, openBracket.link? "http://[::1]/" = .error failure ∧
      (newYorkTimes.fromHead openBracket "http://[::1]/" {}).2 = some failure ∧
      (newYorkTimes.fromHead openBracket "http://[::1]/" {}).1 =
        { title := "標題", category := "china", authors := ["王小明"] } := by
  have known : newYorkTimes ∈ Registry.knownSites := by simp [Registry.knownSites]
  have unreadable : (openBracket.link? "http://[::1]/").isOk = false := by decide +kernel
  cases failed : openBracket.link? "http://[::1]/" with
  | ok link => simp [failed, Except.isOk, Except.toBool] at unreadable
  | error failure =>
    obtain ⟨-, reported, -, -, filled, -⟩ := unreadable_link_fromHead known failed
    refine ⟨known, failure, rfl, reported, filled.trans ?_⟩
    decide +kernel

end Gazette.Site
