import Gazette.Proofs.Chars.Pieces
import Gazette.Proofs.LinkedData.Acceptance
import Gazette.Site.Online

/-!
# Topics called descriptions

The Central News Agency puts its description under the key of topics, and `Mending.describing` renames this key
before the linked data are decoded, where it stands between headline and address. Topics may be objects, a
description may not, so linked data that really name their topics there can be decoded as they stand but not as
they are mended. What can be said of the mended block is exact: it is decoded unless the renamed value is no
description that stays, or a topic comes forward that is none (`Stays`). Keys in objects within the block, of
which the mark may be one, make no difference (`Renamed.fits`).
-/

namespace Gazette

namespace Mending

open Json (keyMark)

/-- `Mending.describe?` writes one `keyMark` in the place of another. -/
theorem describe?_eq_some {cs ds : List Char} (h : describe? cs = some ds) :
    ∃ pre post, cs = pre ++ keyMark "about" ++ post ∧ ds = pre ++ keyMark "description" ++ post := by
  unfold describe? at h
  obtain ⟨rest, found, h⟩ := Option.bind_eq_some_iff.1 h
  obtain ⟨⟨head, tail⟩, cut, last⟩ := Option.bind_eq_some_iff.1 h
  dsimp only at last
  split at last
  next =>
    have about : aboutMark = keyMark "about" := by decide
    have description : descriptionMark = keyMark "description" := by decide
    have line : rest = head ++ keyMark "about" ++ tail ++ rest.dropWhile (· != '\n') := by
      rw [← about, ← Chars.append_of_cut? cut, List.takeWhile_append_dropWhile]
    refine ⟨"\"headline\":".toList ++ head, tail ++ rest.dropWhile (· != '\n'), ?_, ?_⟩
    · have row := Chars.append_of_after? found
      rw [line] at row
      rw [row]
      simp only [List.append_assoc]
    · rw [← Option.some.inj last, description]
      simp only [List.append_assoc]
  next => cases last

/-- `Mending.describing` writes one `keyMark` in the place of another, if it changes anything. -/
theorem describing_cases (block : String) : describing block = block ∨
    ∃ pre post, block.toList = pre ++ keyMark "about" ++ post ∧
      (describing block).toList = pre ++ keyMark "description" ++ post := by
  unfold describing
  split
  next head rest found =>
    obtain ⟨tail, row, described⟩ := Chars.append_of_firstPlace? found
    obtain ⟨pre, post, rfl, rfl⟩ := describe?_eq_some described
    refine .inr ⟨head ++ pre, post, ?_, ?_⟩
    · rw [row]
      simp only [List.append_assoc]
    · rw [String.toList_ofList]
      simp only [List.append_assoc]
  next => exact .inl rfl

end Mending

/-! ## What becomes of a good block -/

namespace LinkedData

open Json Mending Site

variable {block pageUrl : String} {before behind : List (String × Json)} {v v' : Json}

/-- `decode` succeeds exactly if `parseChars` reads a value of which `ofJson` makes linked data. -/
theorem exists_decode_iff :
    (∃ d, decode block pageUrl = .ok d) ↔ ∃ v, parseChars block.toList = .ok v ∧ ∃ d, ofJson v = .ok d := by
  unfold decode parse
  cases parseChars block.toList with
  | error fault =>
    constructor
    · rintro ⟨d, ⟨⟩⟩
    · rintro ⟨v, ⟨⟩, -⟩
  | ok v =>
    cases made : ofJson v with
    | error cause =>
      constructor
      · rintro ⟨d, decoded⟩
        simp only [bind, Except.bind, made] at decoded
        cases decoded
      · rintro ⟨_, ⟨⟩, d, done⟩
        rw [made] at done
        cases done
    | ok d => exact ⟨fun _ ↦ ⟨v, rfl, d, made⟩, fun _ ↦ ⟨d, by simp only [bind, Except.bind, made]; rfl⟩⟩

/-- A description is a single value. -/
theorem fits_description_iff : Fits "description" v ↔ (oneString? v).isSome :=
  ⟨fun h ↦ h.single (by simp), fun h ↦ ⟨fun _ ↦ h, by simp, by simp⟩⟩

/-- Topics are things, one or many. -/
theorem fits_about_iff : Fits "about" v ↔ (oneOrMany thing? v).isSome :=
  ⟨fun h ↦ h.things (by simp), fun h ↦ ⟨by simp, fun _ ↦ h, by simp⟩⟩

/-- If the topics `v` between the members `before` and `behind` are called description, what stays of the members
is good: a description that is not overwritten is a single value, and the topics in front, should no others stand
behind, are things. -/
def Stays (before : List (String × Json)) (v : Json) (behind : List (String × Json)) : Prop :=
  ((lastValue? "description" behind).isSome ∨ (oneString? v).isSome) ∧
  ((lastValue? "about" behind).isSome ∨ ∀ w, lastValue? "about" before = some w → (oneOrMany thing? w).isSome)

/-- Of members of which linked data can be made, `ofJson` still makes some with a topic called description exactly
if `Stays` holds. -/
theorem exists_ofJson_description_iff (good : ∃ d, ofJson (ofMembers (before ++ ("about", v) :: behind)) = .ok d) :
    (∃ d, ofJson (ofMembers (before ++ ("description", v) :: behind)) = .ok d) ↔ Stays before v behind := by
  rw [exists_ofJson_ofMembers_iff] at good ⊢
  rw [forall_lastValue?_key_iff (by decide) good, Stays, fits_description_iff]
  simp only [fits_about_iff]

/-- Of a list, `ofJson` still makes linked data if a topic in a part of it is called description. -/
theorem exists_ofJson_of_renamed (h : Renamed "about" "description" v v') {items : List Json} (list : v = .array items)
    (good : ∃ d, ofJson v = .ok d) : ∃ d, ofJson v' = .ok d := by
  cases h with
  | item within =>
    rw [exists_ofJson_array_iff] at good ⊢
    exact ⟨by simpa using good.1,
      forall_mem_zip (P := Fits) (fun k ↦ within.fits (by decide) (by decide)) good.2⟩
  | value | key => cases list

/-- A block that can be decoded is decoded as `newsAgency` mends it exactly if `Stays` holds of its own topics
wherever the key of these is the one renamed. -/
theorem decode_mend_newsAgency_iff {d : LinkedData} (good : decode block pageUrl = .ok d) :
    (∃ d', decode (newsAgency.mend block) pageUrl = .ok d') ↔
      ∀ before v behind, members? block.toList = some (before ++ ("about", v) :: behind) →
        members? (newsAgency.mend block).toList = some (before ++ ("description", v) :: behind) →
        Stays before v behind := by
  obtain ⟨value, read, made⟩ := exists_decode_iff.1 ⟨d, good⟩
  rw [exists_decode_iff]
  constructor
  · rintro ⟨value', read', made'⟩ before v behind topics described
    rw [parseChars_of_members? topics] at read
    rw [parseChars_of_members? described] at read'
    cases read
    cases read'
    exact (exists_ofJson_description_iff made).1 made'
  · intro stays
    rcases describing_cases block with same | ⟨pre, post, row, row'⟩
    · exact ⟨value, by rwa [show newsAgency.mend block = block from same], made⟩
    · replace row' : (newsAgency.mend block).toList = pre ++ keyMark "description" ++ post := row'
      rw [row'] at stays ⊢
      rw [row] at stays read
      have word : IsWord "about" := by decide
      have word' : IsWord "description" := by decide
      cases value with
      | object sorted =>
        obtain ⟨members, found, same⟩ := exists_members? read
        obtain ⟨before, ⟨key, v⟩, ⟨key', v'⟩, behind, rfl, related, found'⟩ := members?_relabel word word' found
        refine ⟨_, parseChars_of_members? found', ?_⟩
        rw [← same] at made
        rcases related with ⟨rfl, rfl, same⟩ | ⟨same, within⟩
        · cases same
          exact (exists_ofJson_description_iff made).2 (stays before v behind found found')
        · cases same
          rw [exists_ofJson_ofMembers_iff] at made ⊢
          exact forall_lastValue?_value (within.fits (by decide) (by decide)) made
      | array items =>
        obtain ⟨value', related, read'⟩ := parseChars_relabel word word' read
        exact ⟨value', read', exists_ofJson_of_renamed related rfl made⟩
      | null | bool | number | string =>
        obtain ⟨d, ⟨⟩⟩ := made

/-! ## A block with a topic -/

/-- A block that names its topic between headline and address. -/
def topicBlock : String :=
  "\x7b\"@type\":\"NewsArticle\",\"headline\":\"h\",\"about\":\x7b\"name\":\"x\"\x7d,\"url\":\"u\"\x7d"

/-- The linked data of `topicBlock`. -/
def topicData : LinkedData :=
  { kind := "NewsArticle", headline := "h", url := "u", about := [{ name := "x" }] }

/-- `topicBlock` can be decoded, but not as `newsAgency` mends it: its topic is no description. -/
theorem decode_mend_newsAgency_topicBlock :
    decode topicBlock "" = .ok topicData ∧ ¬ ∃ d, decode (newsAgency.mend topicBlock) "" = .ok d := by
  have good : decode topicBlock "" = .ok topicData := by decide +kernel
  have topics : members? topicBlock.toList = some ([("@type", .string "NewsArticle"), ("headline", .string "h")] ++
      ("about", .object [("name", .string "x")]) :: [("url", .string "u")]) := by decide +kernel
  have described : members? (newsAgency.mend topicBlock).toList =
      some ([("@type", .string "NewsArticle"), ("headline", .string "h")] ++
        ("description", .object [("name", .string "x")]) :: [("url", .string "u")]) := by decide +kernel
  refine ⟨good, fun decoded ↦ ?_⟩
  obtain ⟨single, -⟩ := (decode_mend_newsAgency_iff good).1 decoded _ _ _ topics described
  exact absurd single (by decide)

/-- So not every block that can be decoded is decoded as `newsAgency` mends it. -/
theorem not_forall_decode_mend_newsAgency : ¬ ∀ (block pageUrl : String) (d : LinkedData),
    decode block pageUrl = .ok d → ∃ d', decode (newsAgency.mend block) pageUrl = .ok d' := by
  intro claim
  have good : decode topicBlock "" = .ok topicData := by decide +kernel
  obtain ⟨d, decoded⟩ := claim topicBlock "" topicData good
  have broken : (decode (newsAgency.mend topicBlock) "").toOption = none := by decide +kernel
  rw [decoded] at broken
  cases broken

end LinkedData

end Gazette
