import Gazette.Proofs.LinkedData.Blocks
import Gazette.Proofs.Site.Precedence
import Gazette.Site.Registry

/-!
# Linked data that cannot be read

Linked data fail in two ways: no script has a block that describes an article (`LinkedData.Holds`), or the first
block that does (`LinkedData.FirstBlock`) cannot be decoded even when mended (`Site.Undecodable`). Either way
`Site.fromScripts` leaves the draft as it was, and so the record of the page is the one that it would have
without scripts, `Site.extractWith` for the empty list: `linkedData_failures`.
-/

namespace Gazette

open Html

namespace LinkedData

/-! ## The first block -/

/-- `Holds target script`: some block of the script mentions the type `target`. -/
def Holds (target script : String) : Prop := ∃ block ∈ blocks script, mentions target block

/-- `FirstBlock target scripts block`: the block is the first one that mentions the type in the first script that
holds such a block. -/
def FirstBlock (target : String) (scripts : List String) (block : String) : Prop :=
  ∃ before script after, scripts = before ++ script :: after ∧
    (∀ other ∈ before, ¬ Holds target other) ∧ (blocks script).find? (mentions target) = some block

variable {target : String} {scripts : List String}

/-- `block?` finds nothing in any script exactly if no script `Holds` a block of the type. -/
theorem findSome?_block?_eq_none_iff :
    scripts.findSome? (block? target) = none ↔ ∀ script ∈ scripts, ¬ Holds target script := by
  simp only [List.findSome?_eq_none_iff, block?_eq_none_iff, Holds]

/-- What `block?` finds in the scripts is the `FirstBlock`. -/
theorem findSome?_block?_eq_some_iff {block : String} :
    scripts.findSome? (block? target) = some block ↔ FirstBlock target scripts block := by
  rw [List.findSome?_eq_some_iff]
  constructor
  · rintro ⟨before, script, after, row, found, none⟩
    refine ⟨before, script, after, row, fun other mem ↦ block?_eq_none_iff.1 (none other mem), ?_⟩
    rw [← block?_eq_find?, found]
  · rintro ⟨before, script, after, row, none, found⟩
    refine ⟨before, script, after, row, ?_, fun other mem ↦ block?_eq_none_iff.2 (none other mem)⟩
    rw [block?_eq_find?, found]

end LinkedData

namespace Site

/-! ## Scripts -/

section Scripts

variable (site : Site) (scripts : List String) (address : String) (draft : Article)

/-- The first block that describes an article cannot be decoded even as `Site.mend` leaves it. -/
def Undecodable : Prop :=
  ∃ block, LinkedData.FirstBlock site.linkedDataType scripts block ∧
    ∃ fault, LinkedData.parse (site.mend block).toList = .error fault

theorem fromScripts_of_silent (silent : ¬ site.publishesLinkedData) :
    site.fromScripts scripts address draft = (draft, none) :=
  if_neg silent

/-- `fromScripts` finds no block, or it cannot decode the first one, or that fills the draft. -/
theorem fromScripts_cases (publishes : site.publishesLinkedData) :
    (site.block? scripts = none ∧ site.fromScripts scripts address draft =
      (draft, some (.of .linkedDataNotFound address "ParseJsonLD" none))) ∨
    (∃ block fault, site.block? scripts = some block ∧
      LinkedData.parse (site.mend block).toList = .error fault ∧
      site.fromScripts scripts address draft =
        (draft, some (.of .linkedDataDecode address "ParseJsonLD"
          (some (.badJson (site.mend block).toList fault))))) ∨
    ∃ block data, site.block? scripts = some block ∧
      LinkedData.parse (site.mend block).toList = .ok data ∧
      site.fromScripts scripts address draft = (site.fillLinkedData data draft, none) := by
  unfold fromScripts
  rw [if_pos publishes]
  cases site.block? scripts with
  | none => exact .inl ⟨rfl, rfl⟩
  | some block =>
    cases parsed : LinkedData.parse (site.mend block).toList with
    | error fault =>
      refine .inr (.inl ⟨block, fault, rfl, parsed, ?_⟩)
      simp only [LinkedData.decode, parsed, Except.mapError]
    | ok data =>
      refine .inr (.inr ⟨block, data, rfl, parsed, ?_⟩)
      simp only [LinkedData.decode, parsed, Except.mapError]

/-- Where `fromScripts` fails it leaves the draft as it was, and the failure is of one of two kinds. -/
theorem fromScripts_of_failure {failure : Failure}
    (failed : (site.fromScripts scripts address draft).2 = some failure) :
    (site.fromScripts scripts address draft).1 = draft ∧
      (failure.kind = .linkedDataNotFound ∨ failure.kind = .linkedDataDecode) := by
  by_cases publishes : site.publishesLinkedData
  · rcases site.fromScripts_cases scripts address draft publishes with
      ⟨-, left⟩ | ⟨block, fault, -, -, left⟩ | ⟨block, data, -, -, left⟩
    · rw [left] at failed ⊢
      cases failed
      exact ⟨rfl, .inl rfl⟩
    · rw [left] at failed ⊢
      cases failed
      exact ⟨rfl, .inr rfl⟩
    · rw [left] at failed
      cases failed
  · rw [fromScripts_of_silent _ _ _ _ publishes] at failed
    cases failed

variable (publishes : site.publishesLinkedData)
include publishes

/-- `fromScripts` fails with `FailureKind.linkedDataNotFound` exactly if no script `Holds` a block of the type. -/
theorem fromScripts_notFound_iff :
    (site.fromScripts scripts address draft).2.map Failure.kind = some .linkedDataNotFound ↔
      ∀ script ∈ scripts, ¬ LinkedData.Holds site.linkedDataType script := by
  rw [← LinkedData.findSome?_block?_eq_none_iff, ← block?]
  rcases site.fromScripts_cases scripts address draft publishes with
    ⟨none, left⟩ | ⟨block, fault, some, -, left⟩ | ⟨block, data, some, -, left⟩
  · simp [left, none, Failure.of]
  · simp [left, some, Failure.of]
  · simp [left, some]

/-- `fromScripts` fails with `FailureKind.linkedDataDecode` exactly if the scripts are `Undecodable`. -/
theorem fromScripts_decode_iff :
    (site.fromScripts scripts address draft).2.map Failure.kind = some .linkedDataDecode ↔
      site.Undecodable scripts := by
  have first (block : String) : LinkedData.FirstBlock site.linkedDataType scripts block ↔
      site.block? scripts = some block := LinkedData.findSome?_block?_eq_some_iff.symm
  simp only [Undecodable, first]
  rcases site.fromScripts_cases scripts address draft publishes with
    ⟨none, left⟩ | ⟨block, fault, some, error, left⟩ | ⟨block, data, some, ok, left⟩
  · simp [left, none, Failure.of]
  · simp [left, some, error, Failure.of]
  · simp [left, some, ok]

end Scripts

/-! ## Pages -/

section Pages

variable (site : Site) (page : Document) (pageUrl : Url)

/-- The draft of the linked data in some scripts, and the failure that is noted of it. -/
def draftOf (scripts : List String) (address : String) : Article × Option Failure :=
  match site.fromScripts scripts address {} with
  | (draft, none) => (draft, none)
  | (_, some failure) =>
    ({}, if failure.kind = .linkedDataNotFound then none else some failure)

/-- The record of a page, with some scripts in place of its own. -/
def extractWith (scripts : List String) : Extraction :=
  let address := pageUrl.href
  let (linked, linkedFailure) := site.draftOf scripts address
  let (head, headFailure) := site.headDraft page address
  let issues := note (note Table.empty "jsonld" linkedFailure) "meta" headFailure
  let a := site.complete page pageUrl (linked.merge head)
  match page.first? site.layout.body with
  | some body =>
    let (a, more) := site.fromBody body a
    ⟨a, issues.extend more⟩
  | none =>
    ⟨a, issues.insert "body"
      (.of .extract address "ParseBody" (some (.noElement site.layout.body)))⟩

/-- The scripts of a page that may hold linked data. -/
def scriptsOf : List String := (page.all site.layout.linkedData).map Spot.text

/-- `extractFrom` is `extractWith` the scripts of the page itself. -/
theorem extractFrom_eq_extractWith :
    site.extractFrom page pageUrl = site.extractWith page pageUrl (site.scriptsOf page) := rfl

/-- Scripts matter to a record only by the draft that they fill. -/
theorem article_extractWith_congr {scripts others : List String}
    (same : (site.draftOf scripts pageUrl.href).1 = (site.draftOf others pageUrl.href).1) :
    (site.extractWith page pageUrl scripts).article =
      (site.extractWith page pageUrl others).article := by
  unfold extractWith
  dsimp only
  rw [same]
  cases page.first? site.layout.body <;> rfl

theorem draftOf_fst_of_failure {scripts : List String} {address : String} {failure : Failure}
    (failed : (site.fromScripts scripts address {}).2 = some failure) :
    (site.draftOf scripts address).1 = {} := by
  unfold draftOf
  rcases left : site.fromScripts scripts address {} with ⟨draft, _ | failure⟩
  · rw [left] at failed
    cases failed
  · rfl

/-- Of the failures of `fromScripts` the one that is noted is `FailureKind.linkedDataDecode`. -/
theorem draftOf_snd_iff {scripts : List String} {address : String} {failure : Failure} :
    (site.draftOf scripts address).2 = some failure ↔
      (site.fromScripts scripts address {}).2 = some failure ∧ failure.kind = .linkedDataDecode := by
  unfold draftOf
  rcases left : site.fromScripts scripts address {} with ⟨draft, _ | f⟩
  · simp
  · have failed : (site.fromScripts scripts address {}).2 = some f := by rw [left]
    rcases (site.fromScripts_of_failure scripts address {} failed).2 with kind | kind
    · simp only [kind, if_true, reduceCtorEq, Option.some.injEq, false_iff, not_and]
      intro same other
      rw [← same, kind] at other
      cases other
    · simp only [kind, reduceCtorEq, if_false, Option.some.injEq]
      constructor
      · intro same
        exact ⟨same, same ▸ kind⟩
      · exact And.left

theorem draftOf_nil (address : String) : (site.draftOf [] address).1 = {} := by
  unfold draftOf fromScripts
  cases site.publishesLinkedData <;> rfl

end Pages

/-- `fromScripts` that fails leaves the draft as it was. It fails to find a block exactly if no script `Holds` one
of the type asked for, and to decode it exactly if the scripts are `Undecodable`. The record of a page whose
linked data cannot be decoded is `extractWith` no scripts, and there always is one. -/
theorem linkedData_failures (site : Site) (html : String) (pageUrl : Url) :
    let page := Document.parse html
    (∀ scripts address draft,
      let (left, failure) := site.fromScripts scripts address draft
      (failure.isSome → left = draft) ∧
      (site.publishesLinkedData →
        (failure.map Failure.kind = some .linkedDataNotFound ↔
          ∀ script ∈ scripts, ¬ LinkedData.Holds site.linkedDataType script) ∧
        (failure.map Failure.kind = some .linkedDataDecode ↔ site.Undecodable scripts))) ∧
    site.extract html pageUrl = site.extractWith page pageUrl (site.scriptsOf page) ∧
    (site.publishesLinkedData → site.Undecodable (site.scriptsOf page) →
      (site.extract html pageUrl).article = (site.extractWith page pageUrl []).article) ∧
    ∀ registry : Registry, registry.siteOf pageUrl = .ok site →
      registry.extract pageUrl html = .ok (site.extract html pageUrl) := by
  intro page
  refine ⟨fun scripts address draft ↦ ⟨?_, fun publishes ↦ ⟨?_, ?_⟩⟩, ?_, ?_, ?_⟩
  · intro failed
    obtain ⟨failure, failed⟩ := Option.isSome_iff_exists.1 failed
    exact (site.fromScripts_of_failure scripts address draft failed).1
  · exact site.fromScripts_notFound_iff scripts address draft publishes
  · exact site.fromScripts_decode_iff scripts address draft publishes
  · exact site.extractFrom_eq_extractWith page pageUrl
  · intro publishes undecodable
    have kind := (site.fromScripts_decode_iff (site.scriptsOf page) pageUrl.href {} publishes).2
      undecodable
    obtain ⟨failure, failed, -⟩ := Option.map_eq_some_iff.1 kind
    have same := site.article_extractWith_congr page pageUrl
      ((site.draftOf_fst_of_failure failed).trans (site.draftOf_nil pageUrl.href).symm)
    rw [← extractFrom_eq_extractWith] at same
    exact same
  · intro registry found
    rw [Registry.extract, found]
    rfl

/-! ## A page with linked data that cannot be decoded -/

/-- A page with a comma too many in its linked data, and with its title in the head. -/
def oneCommaTooMany : String :=
  "<title>甲</title><script type=application/ld+json>" ++
    "\x7b\"@type\":\"NewsArticle\",\"headline\":\"乙\",\x7d</script>"

theorem undecodable_oneCommaTooMany :
    radioFrance.Undecodable (radioFrance.scriptsOf (Document.parse oneCommaTooMany)) := by
  have spots := Document.spots_of_pairwise (Document.parse oneCommaTooMany) (by decide +kernel)
  have kind : (radioFrance.fromScripts (radioFrance.scriptsOf (Document.parse oneCommaTooMany))
      radioPage.href {}).2.map Failure.kind = some .linkedDataDecode := by
    simp only [scriptsOf, Document.all, spots]
    decide +kernel
  exact (radioFrance.fromScripts_decode_iff _ _ _ (by decide)).1 kind

/-- The record that `radioFrance` makes of `oneCommaTooMany` is the one without scripts. -/
theorem linkedData_failures_oneCommaTooMany :
    radioFrance.publishesLinkedData ∧
      radioFrance.Undecodable (radioFrance.scriptsOf (Document.parse oneCommaTooMany)) ∧
      (radioFrance.extract oneCommaTooMany radioPage).article =
        (radioFrance.extractWith (Document.parse oneCommaTooMany) radioPage []).article := by
  have publishes : radioFrance.publishesLinkedData := by decide
  obtain ⟨-, -, same, -⟩ := linkedData_failures radioFrance oneCommaTooMany radioPage
  exact ⟨publishes, undecodable_oneCommaTooMany, same publishes undecodable_oneCommaTooMany⟩

end Site

end Gazette
