import Gazette.Proofs.Article.Outline
import Gazette.Proofs.Article.Sorted
import Gazette.Proofs.Chars.Edges

/-!
# Well-formed records

In a `WellFormed` record the tags ascend, no related article stands twice, neither list holds an empty text, and
all paragraphs are `Text.Neat`. `Article.merge` of two drafts without paragraphs makes such a record, and the
operations that the rules for bodies are made of (`append`, `byline`, `addTags`, `addRelated`, `collectRelated`)
keep it so, given neat paragraphs.
-/

namespace Gazette.Article

/-- The lists of a record are in good order. -/
structure WellFormed (a : Article) : Prop where
  /-- The tags ascend in the order of their code points. -/
  tags_ascend : a.tags.Pairwise (· < ·)
  /-- No tag is empty. -/
  tags_nonempty : "" ∉ a.tags
  /-- No related article stands twice. -/
  related_nodup : a.related.Nodup
  /-- No related article is without identifier. -/
  related_nonempty : "" ∉ a.related
  /-- All paragraphs are neat. -/
  content_neat : ∀ p ∈ a.content, Text.Neat p

variable {a b : Article}

/-- `WellFormed` depends on tags, related articles and paragraphs alone. -/
theorem WellFormed.congr (h : a.WellFormed) (tags : b.tags = a.tags) (related : b.related = a.related)
    (content : b.content = a.content) : b.WellFormed where
  tags_ascend := tags ▸ h.tags_ascend
  tags_nonempty := tags ▸ h.tags_nonempty
  related_nodup := related ▸ h.related_nodup
  related_nonempty := related ▸ h.related_nonempty
  content_neat := content ▸ h.content_neat

/-- `merge` of two drafts without paragraphs is `WellFormed`. -/
theorem wellFormed_merge (ha : a.content = []) (hb : b.content = []) : (a.merge b).WellFormed where
  tags_ascend := pairwise_sortedTexts (a.tags ++ b.tags)
  tags_nonempty := empty_notMem_sortedTexts (a.tags ++ b.tags)
  related_nodup := nodup_of_pairwise_lt (pairwise_sortedTexts (a.related ++ b.related))
  related_nonempty := empty_notMem_sortedTexts (a.related ++ b.related)
  content_neat p hp := by
    simp only [merge, firstList, ha, hb] at hp
    exact absurd hp List.not_mem_nil

/-- Other paragraphs keep a record `WellFormed` if they are `Text.Neat`. -/
theorem WellFormed.withContent (h : a.WellFormed) {content : List String}
    (neat : ∀ p ∈ content, Text.Neat p) : { a with content }.WellFormed :=
  { h with content_neat := neat }

theorem WellFormed.withAuthors (h : a.WellFormed) (authors : List String) :
    { a with authors }.WellFormed :=
  h.congr rfl rfl rfl

theorem WellFormed.withCategory (h : a.WellFormed) (category : String) :
    { a with category }.WellFormed :=
  h.congr rfl rfl rfl

/-- `append` keeps a record `WellFormed` if the paragraphs are `Text.Neat`. -/
theorem WellFormed.append (h : a.WellFormed) {paragraphs : List String}
    (neat : ∀ p ∈ paragraphs, Text.Neat p) : (a.append paragraphs).WellFormed := by
  refine h.withContent fun p hp ↦ ?_
  rcases List.mem_append.1 hp with hp | hp
  · exact h.content_neat p hp
  · exact neat p hp

theorem WellFormed.byline (h : a.WellFormed) (authors : List String) :
    (a.byline authors).WellFormed :=
  h.withAuthors _

/-- `addTags` keeps a record `WellFormed`: it brings the tags into order. -/
theorem WellFormed.addTags (h : a.WellFormed) (tags : List String) : (a.addTags tags).WellFormed :=
  { h with
    tags_ascend := pairwise_sortedTexts (a.tags ++ tags)
    tags_nonempty := empty_notMem_sortedTexts (a.tags ++ tags) }

/-- `addRelated` keeps a record `WellFormed`: it leaves out what is empty or there. -/
theorem WellFormed.addRelated (h : a.WellFormed) (id : String) : (a.addRelated id).WellFormed := by
  unfold Article.addRelated
  split
  · exact h
  next fresh =>
    simp only [Bool.or_eq_true, not_or, String.isEmpty_iff, List.contains_iff_mem] at fresh
    obtain ⟨full, fresh⟩ := fresh
    refine { h with related_nodup := ?_, related_nonempty := ?_ }
    · refine List.nodup_append.2 ⟨h.related_nodup, by simp, fun x hx y hy same ↦ fresh ?_⟩
      rw [← List.mem_singleton.1 hy, ← same]
      exact hx
    · simp [h.related_nonempty, Ne.symm full]

variable (guid : Url → String) (root : Html.Spot)

theorem WellFormed.relate {found : Article × Issues} (h : found.1.WellFormed) (href : String) :
    (relate guid found href).1.WellFormed := by
  unfold Article.relate
  cases Url.resolve found.1.link href with
  | ok url => exact h.addRelated (guid url)
  | error e => exact h

/-- `collectRelated` keeps a record `WellFormed`. -/
theorem WellFormed.collectRelated (h : a.WellFormed) (css : String) (keep : String → Bool) :
    (a.collectRelated guid root css keep).1.WellFormed := by
  unfold Article.collectRelated
  exact List.foldlRecOn (motive := fun found : Article × Issues ↦ found.1.WellFormed) _ _ h
    fun _ kept href _ ↦ kept.relate guid href

theorem WellFormed.collectRelatedTwice (h : a.WellFormed) (css more : String)
    (keep : String → Bool) : (a.collectRelatedTwice guid root css more keep).1.WellFormed :=
  (h.collectRelated guid root css keep).collectRelated guid root more keep

end Gazette.Article
