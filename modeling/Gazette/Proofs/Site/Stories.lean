import Gazette.Proofs.Article.Related
import Gazette.Proofs.Site.Bylines
import Gazette.Site.Broadcasters
import Gazette.Site.Online

/-!
# Stories with a byline

ETtoday and SET News put the byline of a story into its first paragraph. Whether a paragraph is the byline is
decided by whether a record has authors when its turn comes (`addEttodayParagraph`, `addSetnParagraph`), and
reading a byline always names some. So the first paragraph of a story is the byline of a record without authors,
and every other paragraph is taken once, in order: `Article.Told`.
-/

namespace Gazette

open Html

/-! ## The first paragraph -/

namespace Article

/-- `Told names lines story a b`: the record `b` is `a` with a story told to it. A paragraph that is a byline has
`names`, and what the paragraphs of a record are made of is `lines`. -/
structure Told (names : String → List String) (lines : List String → List String) (story : List String)
    (a b : Article) : Prop where
  /-- The first paragraph names the authors of a record without authors, and all others are told. -/
  byline : a.authors = [] → ∀ first rest, story = first :: rest →
    b.authors = names first ∧ b.content = a.content ++ lines rest
  /-- A record with authors keeps them and is told the whole story. -/
  whole : a.authors ≠ [] ∨ story = [] → b.authors = a.authors ∧ b.content = a.content ++ lines story
  /-- Of all else only the related articles may be others. -/
  elsewhere : b = { a with authors := b.authors, content := b.content, related := b.related }

section Steps

variable {step : Article → String → Article} {names lines : String → List String} {a b : Article}

/-- A record with authors is told all paragraphs. -/
theorem foldl_of_named (later : ∀ a text, a.authors ≠ [] → step a text = a.append (lines text)) (named : a.authors ≠ [])
    (story : List String) : story.foldl step a = a.append (story.flatMap lines) := by
  induction story generalizing a with
  | nil => simp [append]
  | cons text story ih =>
    rw [List.foldl_cons, later a text named, ih (a := a.append (lines text)) named]
    simp [append]

/-- A record without authors is told all paragraphs but the first one, which names them. -/
theorem foldl_of_nameless (names_ne_nil : ∀ s, names s ≠ [])
    (first : ∀ a text, a.authors = [] → step a text = { a with authors := names text })
    (later : ∀ a text, a.authors ≠ [] → step a text = a.append (lines text)) (nameless : a.authors = [])
    (text : String) (rest : List String) :
    (text :: rest).foldl step a = { a with authors := names text }.append (rest.flatMap lines) := by
  rw [List.foldl_cons, first a text nameless]
  exact foldl_of_named later (names_ne_nil text) rest

/-- A step that reads a paragraph as byline or appends its lines, over a whole story, is `Told`. -/
theorem told_foldl (names_ne_nil : ∀ s, names s ≠ [])
    (first : ∀ a text, a.authors = [] → step a text = { a with authors := names text })
    (later : ∀ a text, a.authors ≠ [] → step a text = a.append (lines text)) (a : Article) (story : List String) :
    Told names (·.flatMap lines) story a (story.foldl step a) where
  byline nameless text rest same := by
    rw [same, foldl_of_nameless names_ne_nil first later nameless]
    exact ⟨rfl, rfl⟩
  whole known := by
    rcases known with named | rfl
    · rw [foldl_of_named later named]
      exact ⟨rfl, rfl⟩
    · exact ⟨rfl, (List.append_nil a.content).symm⟩
  elsewhere := by
    by_cases named : a.authors = []
    · cases story with
      | nil => rfl
      | cons text rest =>
        rw [foldl_of_nameless names_ne_nil first later named]
        rfl
    · rw [foldl_of_named later named]
      rfl

/-- A record without authors is `Told` those of the first paragraph. -/
theorem Told.authors_eq {lines : List String → List String} {story : List String} (h : Told names lines story a b) :
    b.authors = firstList a.authors ((story.head?.map names).getD []) := by
  cases authors : a.authors with
  | nil =>
    cases story with
    | nil => exact (h.whole (.inr rfl)).1.trans authors
    | cons text rest => exact (h.byline authors text rest rfl).1
  | cons name others =>
    have named : a.authors ≠ [] := by simp [authors]
    exact (h.whole (.inl named)).1.trans authors

theorem Told.withRelated {lines : List String → List String} {story : List String} (h : Told names lines story a b)
    (related : List String) : Told names lines story a { b with related } where
  byline := h.byline
  whole := h.whole
  elsewhere := by
    conv_lhs => rw [h.elsewhere]

end Steps

end Article

namespace Body

/-- `isStory` holds of a text that is not empty and begins with neither mark of a caption or a link. -/
theorem isStory_iff (s : String) :
    isStory s ↔ s ≠ "" ∧ ¬ Text.startsWith "▸" s ∧ ¬ Text.startsWith "▲" s := by
  have empty : s = "" ↔ s.toList = [] := String.toList_eq_nil_iff.symm
  rw [Ne, empty]
  unfold isStory Text.startsWith Chars.startsWith
  cases s.toList with
  | nil => simp
  | cons c cs => simp [Chars.after?, eq_comm (a := '▸'), eq_comm (a := '▲')]

end Body

/-! ## ETtoday -/

namespace Site

open Article

variable (a : Article) (body : Spot)

/-- A paragraph of ETtoday belongs to a story. -/
structure IsEttodayParagraph (p : Spot) : Prop where
  /-- It is no link to another story by its form. -/
  plain : ¬ p.holds "span strong"
  /-- It is none by its text. -/
  other : ¬ Text.startsWith "延伸閱讀" p.text
  /-- It is not blank. -/
  visible : Text.trim p.text ≠ ""
  /-- It is no caption. -/
  unmarked : ¬ Text.startsWith "▸" (Text.trim p.text) ∧ ¬ Text.startsWith "▲" (Text.trim p.text)

instance (p : Spot) : Decidable (IsEttodayParagraph p) :=
  decidable_of_iff
    (¬ p.holds "span strong" ∧ ¬ Text.startsWith "延伸閱讀" p.text ∧ Text.trim p.text ≠ "" ∧
      ¬ Text.startsWith "▸" (Text.trim p.text) ∧ ¬ Text.startsWith "▲" (Text.trim p.text))
    ⟨fun h ↦ ⟨h.1, h.2.1, h.2.2.1, h.2.2.2⟩, fun h ↦ ⟨h.plain, h.other, h.visible, h.unmarked⟩⟩

/-- The texts of the paragraphs of a page that are `IsEttodayParagraph`. -/
def ettodayStory : List String :=
  ((body.all "article div.story[itemprop='articleBody'] > p").filter fun p ↦ IsEttodayParagraph p).map fun p ↦
    Text.trim p.text

/-- `ettodayParagraphs`, which leaves paragraphs out one reason after the other, is `ettodayStory`. -/
theorem ettodayParagraphs_eq : ettodayParagraphs body = ettodayStory body := by
  unfold ettodayParagraphs ettodayStory
  simp only [List.filter_map, List.map_map, List.filter_filter]
  refine congrArg₂ List.map rfl (List.filter_congr fun p _ ↦ ?_)
  have iff : Body.isStory (Text.trim p.text) = true ∧ ¬ Text.startsWith "延伸閱讀" p.text ∧ ¬ p.holds "span strong" ↔
      IsEttodayParagraph p := by
    rw [Body.isStory_iff]
    exact ⟨fun ⟨⟨visible, unmarked⟩, other, plain⟩ ↦ ⟨plain, other, visible, unmarked⟩,
      fun h ↦ ⟨⟨h.visible, h.unmarked⟩, h.other, h.plain⟩⟩
  rw [Bool.eq_iff_iff, decide_eq_true_iff, ← iff]
  simp

/-- `ettoday` tells a record the `ettodayStory` of a page. -/
theorem told_ettodayBody :
    Told Byline.reportersOrDesk id (ettodayStory body) a (ettoday.fromBody body a).1 := by
  have told : Told Byline.reportersOrDesk (·.flatMap fun text ↦ [text]) (ettodayParagraphs body) a
      ((ettodayParagraphs body).foldl addEttodayParagraph a) := by
    refine told_foldl Byline.reportersOrDesk_ne_nil (fun a text nameless ↦ ?_) (fun a text named ↦ ?_) a _
    · rw [addEttodayParagraph, if_pos (by simp [nameless])]
    · rw [addEttodayParagraph, if_neg (by simpa using named)]
  have each : (fun story : List String ↦ story.flatMap fun text ↦ [text]) = id := funext List.flatMap_singleton'
  rw [each, ettodayParagraphs_eq] at told
  simp only [ettoday, ettodayBody, ettodayParagraphs_eq]
  generalize body.first? "div#hot_area div.tab_content div.piece div.part_list_3" = part
  cases part with
  | none =>
    dsimp only
    exact told
  | some part =>
    rw [fst_collectRelated]
    exact told.withRelated _

/-! ## SET News -/

/-- A paragraph of SET News belongs to a story. -/
structure IsSetnParagraph (p : Spot) : Prop where
  /-- It is not centred. -/
  flush : p.attribute? "style" ≠ some "text-align: center;" ∧ p.attribute? "style" ≠ some "text-align:center;"
  /-- It is not empty. -/
  nonempty : p.text ≠ ""
  /-- It is no caption. -/
  unmarked : ¬ Text.startsWith "▸" p.text ∧ ¬ Text.startsWith "▲" p.text

instance (p : Spot) : Decidable (IsSetnParagraph p) :=
  decidable_of_iff
    ((p.attribute? "style" ≠ some "text-align: center;" ∧ p.attribute? "style" ≠ some "text-align:center;") ∧
      p.text ≠ "" ∧ ¬ Text.startsWith "▸" p.text ∧ ¬ Text.startsWith "▲" p.text)
    ⟨fun h ↦ ⟨h.1, h.2.1, h.2.2⟩, fun h ↦ ⟨h.flush, h.nonempty, h.unmarked⟩⟩

/-- The texts of the paragraphs of a page that are `IsSetnParagraph`. -/
def setnStory : List String :=
  ((body.all "div#ckuse article div > p").filter fun p ↦ IsSetnParagraph p).map Spot.text

/-- The lines of a story of SET News: its paragraphs cleaned, without the empty ones and the links to other
stories. -/
def setnLines (story : List String) : List String :=
  (story.map fun text ↦ Text.collapseSpaces (Text.trim (Text.stripHidden text))).filter fun line ↦
    line ≠ "" ∧ ¬ Text.startsWith "延伸閱讀" line

theorem flatMap_setnLines (story : List String) : (story.flatMap fun text ↦ setnLines [text]) = setnLines story := by
  unfold setnLines
  induction story with
  | nil => rfl
  | cons text story ih => rw [List.flatMap_cons, ih, ← List.filter_append, ← List.map_append, List.singleton_append]

/-- `addSetnParagraph` appends the `setnLines` of a paragraph to a record with authors. -/
theorem addSetnParagraph_of_named {a : Article} (named : a.authors ≠ []) (text : String) :
    addSetnParagraph a text = a.append (setnLines [text]) := by
  rw [addSetnParagraph, if_neg (by simpa using named), setnLines, List.map_singleton]
  dsimp only
  generalize Text.collapseSpaces (Text.trim (Text.stripHidden text)) = line
  split
  next out =>
    have dropped : ¬ (line ≠ "" ∧ ¬ Text.startsWith "延伸閱讀" line) := by
      simpa [imp_iff_not_or] using out
    rw [List.filter_cons_of_neg (by simpa using dropped)]
    exact congrArg (fun content ↦ { a with content }) (List.append_nil a.content).symm
  next kept => rw [List.filter_cons_of_pos (by simpa using kept), List.filter_nil]

/-- The paragraphs of a story of SET News, its byline included. -/
def setnParagraphs (body : Spot) : List String :=
  (((body.all "div#ckuse article div > p").filter fun p ↦ !isCentred p).map Spot.text).filter
    Body.isStory

/-- `isCentred` asks the style of a paragraph. -/
theorem isCentred_iff (p : Spot) : isCentred p ↔
    p.attribute? "style" = some "text-align: center;" ∨ p.attribute? "style" = some "text-align:center;" := by
  unfold isCentred
  cases p.attribute? "style" <;> simp

/-- `setnParagraphs`, which leaves paragraphs out one reason after the other, is `setnStory`. -/
theorem setnParagraphs_eq : setnParagraphs body = setnStory body := by
  unfold setnParagraphs setnStory
  simp only [List.filter_map, List.filter_filter]
  refine congrArg (List.map Spot.text) (List.filter_congr fun p _ ↦ ?_)
  have iff : Body.isStory p.text ∧ ¬ isCentred p ↔ IsSetnParagraph p := by
    rw [Body.isStory_iff, isCentred_iff, not_or]
    exact ⟨fun ⟨⟨nonempty, unmarked⟩, flush⟩ ↦ ⟨flush, nonempty, unmarked⟩,
      fun h ↦ ⟨⟨h.nonempty, h.unmarked⟩, h.flush⟩⟩
  rw [Bool.eq_iff_iff, decide_eq_true_iff, ← iff]
  simp

/-- `setn` tells a record the `setnStory` of a page. -/
theorem told_setnBody :
    Told Byline.deskOrWriter setnLines (setnStory body) a (setn.fromBody body a).1 := by
  have told : Told Byline.deskOrWriter (·.flatMap fun text ↦ setnLines [text]) (setnParagraphs body) a
      ((setnParagraphs body).foldl addSetnParagraph a) := by
    refine told_foldl Byline.deskOrWriter_ne_nil (fun a text nameless ↦ ?_) (fun a text named ↦ ?_) a _
    · rw [addSetnParagraph, if_pos (by simp [nameless])]
    · exact addSetnParagraph_of_named named text
  rw [funext flatMap_setnLines, setnParagraphs_eq] at told
  have paragraphs := setnParagraphs_eq body
  unfold setnParagraphs at paragraphs
  simp only [setn, setnBody]
  rw [fst_collectRelated, paragraphs]
  exact told.withRelated _

/-- `ettoday` and `setn` tell a record the story of a page, as `Told` says. -/
theorem told_story :
    Told Byline.reportersOrDesk id (ettodayStory body) a (ettoday.fromBody body a).1 ∧
      Told Byline.deskOrWriter setnLines (setnStory body) a (setn.fromBody body a).1 :=
  ⟨told_ettodayBody a body, told_setnBody a body⟩

end Site

end Gazette
