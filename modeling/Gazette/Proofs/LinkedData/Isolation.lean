import Gazette.Proofs.Json.Grammar
import Gazette.Proofs.LinkedData.Blocks
import Gazette.Site.Basic

/-!
# Objects as blocks

The search for blocks counts braces and knows nothing of JSON. Where no string of an object holds a brace that
is not escaped (`Json.Derives NoBrace`), the braces of the object are those of its structure, and the object is
a block (`isBlock_of_derives`): whatever stands in front of it, be it other such objects or text without braces
(`Apart`), and whatever stands behind it. By induction on `Derives`, each part of an object is `Neutral`.
-/

namespace Gazette

namespace LinkedData

open Json

/-! ## Neutral runs -/

/-- A run that leaves the count of open braces as it was, and does not close those that were open before: behind
it the same is left to close. -/
def Neutral (cs : List Char) : Prop :=
  ∀ (d : Int) (rest : List Char), 0 < d → (Closes d (cs ++ rest) ↔ Closes d rest)

theorem neutral_nil : Neutral [] := fun _ _ _ ↦ Iff.rfl

theorem Neutral.append {cs ds : List Char} (h : Neutral cs) (h' : Neutral ds) : Neutral (cs ++ ds) := by
  intro d rest positive
  rw [List.append_assoc, h d _ positive, h' d rest positive]

theorem Neutral.cons {c : Char} {cs : List Char} (none : weight c = 0) (h : Neutral cs) :
    Neutral (c :: cs) := by
  intro d rest positive
  rw [List.cons_append, closes_cons_iff, none, Int.add_zero, h d rest positive]
  exact and_iff_right positive

/-- A run without braces is `Neutral`. -/
theorem neutral_of_forall {cs : List Char} (h : ∀ c ∈ cs, weight c = 0) : Neutral cs := by
  induction cs with
  | nil => exact neutral_nil
  | cons c cs ih =>
    exact .cons (h c List.mem_cons_self) (ih fun c mem ↦ h c (List.mem_cons_of_mem _ mem))

/-- A `Neutral` run with a closing brace behind it `Closes` one brace. -/
theorem Neutral.closes {cs : List Char} (h : Neutral cs) : Closes 1 (cs ++ ['\x7d']) := by
  rw [h 1 _ Int.one_pos, closes_cons_iff]
  exact ⟨Int.one_pos, closes_nil_iff.2 rfl⟩

/-- A `Neutral` run in braces is a block. -/
theorem Neutral.isBlock {cs : List Char} (h : Neutral cs) : IsBlock ('\x7b' :: cs ++ ['\x7d']) :=
  ⟨cs ++ ['\x7d'], rfl, h.closes⟩

/-- A `Neutral` run in braces is `Neutral`. -/
theorem Neutral.braced {cs : List Char} (h : Neutral cs) : Neutral ('\x7b' :: cs ++ ['\x7d']) := by
  intro d rest positive
  have opened : 0 < d + weight '\x7b' := Int.add_pos positive Int.one_pos
  have closed : d + weight '\x7b' + weight '\x7d' = d := Int.add_neg_cancel_right d 1
  rw [List.cons_append, List.cons_append, List.append_assoc, closes_cons_iff, and_iff_right positive,
    h _ _ opened, List.cons_append, closes_cons_iff, and_iff_right opened, closed, List.nil_append]

/-! ## Neutral parts of a text -/

/-- A character other than a brace. -/
def NoBrace (c : Char) : Prop := c ≠ '\x7b' ∧ c ≠ '\x7d'

instance (c : Char) : Decidable (NoBrace c) := inferInstanceAs (Decidable (_ ∧ _))

theorem NoBrace.weight_eq {c : Char} (h : NoBrace c) : weight c = 0 := by
  rw [weight, if_neg h.1, if_neg h.2]

theorem noBrace_of_holds {p : Char → Bool} (opens : p '\x7b' = false) (closes : p '\x7d' = false)
    {c : Char} (h : p c) : NoBrace c := by
  constructor
  · rintro rfl
    rw [opens] at h
    cases h
  · rintro rfl
    rw [closes] at h
    cases h

/-- A run of characters that pass a test which braces fail is `Neutral`. -/
theorem neutral_of_holds {p : Char → Bool} (opens : p '\x7b' = false) (closes : p '\x7d' = false)
    {cs : List Char} (h : ∀ c ∈ cs, p c) : Neutral cs :=
  neutral_of_forall fun c mem ↦ (noBrace_of_holds opens closes (h c mem)).weight_eq

theorem neutral_of_isGap {cs : List Char} (h : IsGap cs) : Neutral cs :=
  neutral_of_holds (by decide) (by decide) h

theorem neutral_of_isDigits {cs : List Char} (h : IsDigits cs) : Neutral cs :=
  neutral_of_holds (by decide) (by decide) h.2

/-- A number is `Neutral`. -/
theorem neutral_of_isNumber {cs : List Char} (h : IsNumber cs) : Neutral cs := by
  obtain ⟨sign, hsign, whole, fraction, exponent, rfl, digits, hfraction, hexponent⟩ := h
  have signed : Neutral sign := by
    refine neutral_of_holds (p := (· == '-')) (by decide) (by decide) fun c mem ↦ ?_
    simp only [List.mem_cons, List.not_mem_nil, or_false] at hsign
    rcases hsign with rfl | rfl
    · cases mem
    · simpa using mem
  have broken : Neutral fraction := by
    rcases hfraction with rfl | ⟨places, rfl, places'⟩
    · exact neutral_nil
    · exact (neutral_of_isDigits places').cons rfl
  have scaled : Neutral exponent := by
    rcases hexponent with rfl | ⟨mark, hmark, sign, hsign, places, rfl, places'⟩
    · exact neutral_nil
    · have lead : Neutral (mark :: sign) := by
        refine neutral_of_holds (p := (· ∈ ['e', 'E', '+', '-'])) (by decide) (by decide)
          (List.all_eq_true.1 ?_)
        simp only [List.mem_cons, List.not_mem_nil, or_false] at hmark hsign
        rcases hmark with rfl | rfl <;> rcases hsign with rfl | rfl | rfl <;> rfl
      exact lead.append (neutral_of_isDigits places')
  exact ((signed.append (neutral_of_isDigits digits.1)).append broken).append scaled

/-- What stands between the quotes of a string is `Neutral` if all braces in it are escaped. -/
theorem neutral_of_isBody {cs : List Char} (h : IsBody NoBrace cs) : Neutral cs := by
  induction h with
  | nil => exact neutral_nil
  | char _ _ _ allowed _ ih => exact .cons allowed.weight_eq ih
  | escape letter _ ih =>
    have other : NoBrace _ := noBrace_of_holds (p := (· ∈ escapeLetters)) (by decide) (by decide)
      (decide_eq_true letter)
    exact .cons rfl (.cons other.weight_eq ih)
  | unit _ hex _ ih =>
    exact .cons rfl (.cons rfl ((neutral_of_holds (by decide) (by decide) hex).append ih))

theorem neutral_of_isString {cs : List Char} (h : IsString NoBrace cs) : Neutral cs := by
  obtain ⟨body, rfl, inner⟩ := h
  exact .cons rfl ((neutral_of_isBody inner).append (.cons rfl neutral_nil))

/-- All parts of a text are `Neutral` if all braces in strings are escaped. -/
theorem neutral_of_derives {part : Part} {cs : List Char} (h : Derives NoBrace part cs) :
    Neutral cs := by
  -- Only an object brings braces of its own, and there the run between them is neutral by induction.
  induction h with
  | null | true | false =>
    exact neutral_of_holds (p := Char.isAlpha) (by decide) (by decide) (List.all_eq_true.1 rfl)
  | number number => exact neutral_of_isNumber number
  | string string => exact neutral_of_isString string
  | emptyList space => exact .cons rfl ((neutral_of_isGap space).append (.cons rfl neutral_nil))
  | list _ ih => exact .cons rfl (ih.append (.cons rfl neutral_nil))
  | ofObject _ ih | lastElement _ ih | lastMember _ ih => exact ih
  | emptyObject space => exact (neutral_of_isGap space).braced
  | object _ ih => exact ih.braced
  | element space _ space' ih =>
    exact ((neutral_of_isGap space).append ih).append (neutral_of_isGap space')
  | elements _ _ first more | members _ _ first more => exact first.append (.cons rfl more)
  | member space string space' _ ih =>
    have named := (neutral_of_isGap space).append (neutral_of_isString string)
    exact (named.append (neutral_of_isGap space')).append (.cons rfl ih)

/-- An object is a block if all braces in its strings are escaped. -/
theorem isBlock_of_derives {cs : List Char} (h : Derives NoBrace .object cs) : IsBlock cs := by
  cases h with
  | emptyObject space => exact (neutral_of_isGap space).isBlock
  | object members => exact (neutral_of_derives members).isBlock

/-! ## Rows of objects -/

/-- `blocksOf` passes over text without braces. -/
theorem blocksOf_append_of_forall {text : List Char} (h : ∀ c ∈ text, NoBrace c) (rest : List Char) :
    blocksOf (text ++ rest) = blocksOf rest := by
  induction text with
  | nil => rfl
  | cons c text ih =>
    rw [List.cons_append, blocksOf_cons_of_ne (h c List.mem_cons_self).1]
    exact ih fun c mem ↦ h c (List.mem_cons_of_mem _ mem)

/-- What may stand in front of an object of the type `target`: text without braces, or an object that is not of
the type. -/
def Apart (target : String) (piece : String) : Prop :=
  (∀ c ∈ piece.toList, NoBrace c) ∨ (Derives NoBrace .object piece.toList ∧ ¬ mentions target piece)

/-- The search of `blocksOf` for a type passes over a piece that is `Apart`. -/
theorem find?_blocksOf_append {target piece : String} (h : Apart target piece) (rest : List Char) :
    (blocksOf (piece.toList ++ rest)).find? (hasType target.toList) =
      (blocksOf rest).find? (hasType target.toList) := by
  rcases h with text | ⟨object, other⟩
  · rw [blocksOf_append_of_forall text]
  · rw [blocksOf_append (isBlock_of_derives object), List.find?_cons_of_neg (p := hasType target.toList) other]

/-- It passes over any number of such pieces. -/
theorem find?_blocksOf_concat {target : String} {pieces : List String}
    (h : ∀ piece ∈ pieces, Apart target piece) (rest : List Char) :
    (blocksOf (pieces.flatMap String.toList ++ rest)).find? (hasType target.toList) =
      (blocksOf rest).find? (hasType target.toList) := by
  induction pieces with
  | nil => rfl
  | cons piece pieces ih =>
    rw [List.flatMap_cons, List.append_assoc, find?_blocksOf_append (h piece List.mem_cons_self)]
    exact ih fun piece mem ↦ h piece (List.mem_cons_of_mem _ mem)

/-- `block?` finds the whole of an object of the type behind pieces that are `Apart`, whatever stands behind
it. -/
theorem block?_concat_append {target object : String} {pieces : List String}
    (apart : ∀ piece ∈ pieces, Apart target piece) (whole : Derives NoBrace .object object.toList)
    (typed : mentions target object) (rest : String) :
    block? target (Text.concat pieces ++ object ++ rest) = some object := by
  have row : (Text.concat pieces ++ object ++ rest).toList =
      pieces.flatMap String.toList ++ (object.toList ++ rest.toList) := by
    simp [Text.concat]
  have first : hasType target.toList object.toList := typed
  rw [block?, row, blockOf?_eq_find?, find?_blocksOf_concat apart, blocksOf_append (isBlock_of_derives whole),
    List.find?_cons_of_pos first, Option.map_some, String.ofList_toList]

/-- Of a script in which an object of a type stands behind pieces that are `Apart`, `block?` finds the whole of
the object and nothing else, and `Site.fromScripts` of a site that looks for this type decodes it. -/
theorem fromScripts_concat_append {target object : String} {pieces : List String}
    (apart : ∀ piece ∈ pieces, Apart target piece) (whole : Derives NoBrace .object object.toList)
    (typed : mentions target object) (rest : String) :
    block? target (Text.concat pieces ++ object ++ rest) = some object ∧
    ∀ site : Site, site.publishesLinkedData → site.linkedDataType = target →
      ∀ (scripts : List String) (pageUrl : String) (draft : Article),
        site.fromScripts ((Text.concat pieces ++ object ++ rest) :: scripts) pageUrl draft =
          match decode (site.mend object) pageUrl with
          | .ok data => (site.fillLinkedData data draft, none)
          | .error failure => (draft, some failure) := by
  have found := block?_concat_append apart whole typed rest
  refine ⟨found, fun site publishes type scripts pageUrl draft ↦ ?_⟩
  have block : site.block? ((Text.concat pieces ++ object ++ rest) :: scripts) = some object := by
    rw [Site.block?, type, List.findSome?_cons, found]
  rw [Site.fromScripts, if_pos publishes]
  cases decoded : decode (site.mend object) pageUrl with
  | ok data => simp only [block, decoded]
  | error failure => simp only [block, decoded]

/-! ## A row of two objects -/

/-- An object with an escaped brace in a string. -/
def escapedBrace : String := "\x7b\"k\":\"\\u007b\"\x7d"

/-- An object of the type `N` with an object in it. -/
def nested : String := "\x7b\"@type\":[\"N\",\x7b\x7d]\x7d"

theorem derives_escapedBrace : Derives NoBrace .object escapedBrace.toList := by
  have key : IsString NoBrace ('"' :: ['k'] ++ ['"']) := isString_of_forall (by simp [NoBrace])
  have escape : IsBody NoBrace ('\\' :: 'u' :: "007b".toList ++ []) := .unit rfl (List.all_eq_true.1 rfl) .nil
  have item : IsString NoBrace "\"\\u007b\"".toList := ⟨_, rfl, escape⟩
  exact .object (.lastMember (.member isGap_nil key isGap_nil (.element isGap_nil (.string item) isGap_nil)))

theorem derives_nested : Derives NoBrace .object nested.toList := by
  have key : IsString NoBrace ('"' :: "@type".toList ++ ['"']) := isString_of_forall (by simp [NoBrace])
  have item : IsString NoBrace ('"' :: ['N'] ++ ['"']) := isString_of_forall (by simp [NoBrace])
  have inner : Derives NoBrace .element "\x7b\x7d".toList :=
    .element isGap_nil (.ofObject (.emptyObject isGap_nil)) isGap_nil
  have list : Derives NoBrace .value "[\"N\",\x7b\x7d]".toList :=
    .list (.elements (.element isGap_nil (.string item) isGap_nil) (.lastElement inner))
  exact .object (.lastMember (.member isGap_nil key isGap_nil (.element isGap_nil list isGap_nil)))

/-- `nested` is found behind `escapedBrace` and before a brace that nothing closes. -/
theorem fromScripts_concat_append_nested :
    Apart "N" "新" ∧ Apart "N" escapedBrace ∧ Derives NoBrace .object nested.toList ∧
      block? "N" (Text.concat ["新", escapedBrace] ++ nested ++ "\x7b\"@type\":\"N\"") = some nested := by
  have text : Apart "N" "新" := .inl (by simp [NoBrace])
  have other : Apart "N" escapedBrace := .inr ⟨derives_escapedBrace, by decide⟩
  have apart : ∀ piece ∈ ["新", escapedBrace], Apart "N" piece :=
    List.forall_mem_cons.2 ⟨text, List.forall_mem_singleton.2 other⟩
  have found := fromScripts_concat_append apart derives_nested (by decide) "\x7b\"@type\":\"N\""
  exact ⟨text, other, derives_nested, found.1⟩

end LinkedData

end Gazette
