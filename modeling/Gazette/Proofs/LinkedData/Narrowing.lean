import Gazette.Proofs.Chars.Edges
import Gazette.Proofs.LinkedData.Isolation
import Gazette.Site.Broadcasters

/-!
# Narrowing a block to its article

The BBC lists its article among other objects in a graph, and `Mending.narrowed` narrows a block to the article
by looking for it between the first opening and the last closing square bracket (`Bracketed`). A block without
brackets stays what it is. But an article that is the block itself and has a list in one of its fields is looked
for in that list, and is lost unless the list happens to hold an article, too: `KeepsArticle` says exactly when
one is found, and `listingArticle` is one that is lost.
-/

namespace Gazette

open LinkedData

/-! ## What stands in brackets -/

namespace Mending

/-- `Bracketed cs scope`: the run `scope` goes from the first opening to the last closing square bracket of
`cs`. -/
def Bracketed (cs scope : List Char) : Prop :=
  ∃ lead inner trail, cs = lead ++ scope ++ trail ∧ scope = '[' :: inner ++ [']'] ∧ '[' ∉ lead ∧ ']' ∉ trail

variable {cs scope lead : List Char} {c : Char}

theorem takeWhile_ne_append_cons (first : c ∉ lead) (rest : List Char) :
    (lead ++ c :: rest).takeWhile (· != c) = lead := by
  have others : ∀ d ∈ lead, (d != c) = true := fun d mem ↦ bne_iff_ne.2 fun same ↦ first (same ▸ mem)
  rw [List.takeWhile_append_of_pos others, List.takeWhile_cons_of_neg (by simp), List.append_nil]

theorem takeWhile_ne_of_notMem (none : c ∉ cs) : cs.takeWhile (· != c) = cs :=
  List.takeWhile_eq_self_iff.2 fun _ mem ↦ bne_iff_ne.2 fun same ↦ none (same ▸ mem)

/-- `Mending.inBrackets` takes what is `Bracketed`. -/
theorem inBrackets_of_bracketed (h : Bracketed cs scope) : inBrackets cs = scope := by
  obtain ⟨lead, inner, trail, rfl, rfl, first, last⟩ := h
  have front : (lead ++ ('[' :: inner ++ [']']) ++ trail).takeWhile (· != '[') = lead := by
    rw [List.append_assoc, List.cons_append, List.cons_append]
    exact takeWhile_ne_append_cons first _
  have back : (lead ++ ('[' :: inner ++ [']']) ++ trail).reverse.takeWhile (· != ']') = trail.reverse := by
    have row : (lead ++ ('[' :: inner ++ [']']) ++ trail).reverse =
        trail.reverse ++ ']' :: (lead ++ '[' :: inner).reverse := by simp
    rw [row]
    exact takeWhile_ne_append_cons (fun mem ↦ last (List.mem_reverse.1 mem)) _
  have size : (lead ++ ('[' :: inner ++ [']']) ++ trail).length = lead.length + (inner.length + 2) + trail.length := by
    simp only [List.length_append, List.length_cons, List.length_nil]
  have left : lead.length + (inner.length + 2) + trail.length - lead.length - trail.length =
      ('[' :: inner ++ [']']).length := by
    rw [List.length_append, List.length_cons, List.length_singleton]
    omega
  unfold inBrackets
  simp only [front, back, size, List.length_reverse, left]
  rw [if_pos (by omega), List.append_assoc, List.drop_left, List.take_left]

/-- `Mending.inBrackets` takes the whole of a run with nothing in brackets. -/
theorem inBrackets_of_not_bracketed (h : ∀ scope, ¬ Bracketed cs scope) : inBrackets cs = cs := by
  refine if_neg fun room ↦ ?_
  by_cases opens : '[' ∈ cs
  · by_cases closes : ']' ∈ cs
    · obtain ⟨lead, rest, row, first⟩ := List.eq_append_cons_of_mem opens
      obtain ⟨back, front, row', last⟩ := List.eq_append_cons_of_mem (List.mem_reverse.2 closes)
      have row'' : cs = front.reverse ++ ']' :: back.reverse := by simpa using congrArg List.reverse row'
      have before : cs.takeWhile (· != '[') = lead := by rw [row, takeWhile_ne_append_cons first]
      have behind : cs.reverse.takeWhile (· != ']') = back := by rw [row', takeWhile_ne_append_cons last]
      have size : cs.length = front.length + 1 + back.length := by
        rw [row'']
        simp only [List.length_append, List.length_cons, List.length_reverse]
        omega
      rw [before, behind, size] at room
      -- The opening bracket stands in front of the closing one, so it lies in what stands in front of that.
      rcases List.append_eq_append_iff.1 (row''.symm.trans row) with ⟨spare, long, -⟩ | ⟨spare, front_eq, inner⟩
      · have size := congrArg List.length long
        rw [List.length_append, List.length_reverse] at size
        omega
      · cases spare with
        | nil =>
          have size := congrArg List.length front_eq
          rw [List.length_append, List.length_reverse, List.length_nil] at size
          omega
        | cons d spare =>
          obtain ⟨rfl, inner⟩ := List.cons.inj inner
          refine h _ ⟨lead, spare, back.reverse, ?_, rfl, first, fun mem ↦ last (List.mem_reverse.1 mem)⟩
          rw [row, inner]
          simp
    · rw [takeWhile_ne_of_notMem (mt List.mem_reverse.1 closes), List.length_reverse] at room
      omega
  · rw [takeWhile_ne_of_notMem opens] at room
    omega

end Mending

/-! ## What is left of a block -/

namespace LinkedData

open Json Mending Site

variable {text block scope : String}

/-- A block that mentions the type of articles, `newsArticle`. -/
def IsArticle (s : String) : Prop := IsBlock s.toList ∧ mentions newsArticle s

/-- What is `Bracketed` in a block, if anything is, has a block that mentions `newsArticle`. -/
def KeepsArticle (block : String) : Prop :=
  ∀ scope : String, Bracketed block.toList scope.toList → ∃ article ∈ blocks scope, mentions newsArticle article

/-- What `block?` finds for `newsArticle` is an article. -/
theorem isArticle_of_block? (found : block? newsArticle text = some block) : IsArticle block := by
  rw [block?_eq_find?] at found
  obtain ⟨cs, mem, rfl⟩ := List.mem_map.1 (List.mem_of_find?_eq_some found)
  exact ⟨String.toList_ofList ▸ isBlock_of_mem_blocksOf mem, List.find?_some found⟩

theorem not_isArticle_empty : ¬ IsArticle "\x7b\x7d" := fun h ↦ absurd h.2 (by decide)

/-- `bbc` leaves an article with nothing in brackets as it is. -/
theorem mend_bbc_of_not_bracketed (article : IsArticle block) (h : ∀ scope, ¬ Bracketed block.toList scope) :
    bbc.mend block = block := by
  have alone : blocks block = [block] := by
    rw [blocks, blocksOf_of_isBlock article.1, List.map_singleton, String.ofList_toList]
  rw [show bbc.mend block = narrowed block from rfl, narrowed, inBrackets_of_not_bracketed h, String.ofList_toList,
    block?_eq_find?, alone, List.find?_cons_of_pos article.2]
  rfl

/-- `bbc` narrows a block with something `Bracketed` to the first article that `block?` finds there, or to the
empty object. -/
theorem mend_bbc_of_bracketed (h : Bracketed block.toList scope.toList) :
    bbc.mend block = (block? newsArticle scope).getD "\x7b\x7d" := by
  rw [show bbc.mend block = narrowed block from rfl, narrowed, inBrackets_of_bracketed h, String.ofList_toList]

/-- `bbc` narrows an article that `KeepsArticle` to an article. -/
theorem isArticle_mend_bbc (article : IsArticle block) (h : KeepsArticle block) : IsArticle (bbc.mend block) := by
  by_cases brackets : ∃ scope, Bracketed block.toList scope
  · obtain ⟨scope, bracketed⟩ := brackets
    rw [← String.toList_ofList (l := scope)] at bracketed
    have some : block? newsArticle (String.ofList scope) ≠ none := fun none ↦
      block?_eq_none_iff.1 none (h _ bracketed)
    obtain ⟨found, eq⟩ := Option.ne_none_iff_exists'.1 some
    rw [mend_bbc_of_bracketed bracketed, eq]
    exact isArticle_of_block? eq
  · rw [mend_bbc_of_not_bracketed article (not_exists.1 brackets)]
    exact article

/-- `bbc` narrows a block that does not keep its article to the empty object. -/
theorem mend_bbc_of_not_keepsArticle (h : ¬ KeepsArticle block) : bbc.mend block = "\x7b\x7d" := by
  unfold KeepsArticle at h
  push Not at h
  obtain ⟨scope, bracketed, none⟩ := h
  have lost : block? newsArticle scope = .none := block?_eq_none_iff.2 fun ⟨article, mem, typed⟩ ↦
    none article mem typed
  rw [mend_bbc_of_bracketed bracketed, lost]
  rfl

/-- What `bbc` narrows an article to is an article exactly if it `KeepsArticle`; else it is the empty object. An
object of a graph that describes an article is what the graph is narrowed to if only text without braces and
objects of other types stand in front of it. -/
theorem isArticle_mend_bbc_iff (found : block? newsArticle text = some block) :
    (IsArticle (bbc.mend block) ↔ KeepsArticle block) ∧
    (¬ KeepsArticle block → bbc.mend block = "\x7b\x7d") ∧
    ∀ (pieces : List String) (article rest : String),
      Bracketed block.toList (Text.concat pieces ++ article ++ rest).toList →
      (∀ piece ∈ pieces, Apart newsArticle piece) → Derives NoBrace .object article.toList →
      mentions newsArticle article → bbc.mend block = article := by
  refine ⟨⟨fun kept ↦ ?_, isArticle_mend_bbc (isArticle_of_block? found)⟩, mend_bbc_of_not_keepsArticle,
    fun pieces article rest bracketed apart whole typed ↦ ?_⟩
  · by_contra lost
    rw [mend_bbc_of_not_keepsArticle lost] at kept
    exact not_isArticle_empty kept
  · rw [mend_bbc_of_bracketed bracketed, block?_concat_append apart whole typed]
    rfl

/-! ## A graph, and an article with a list -/

/-- A page in a graph. -/
def listedPage : String := "\x7b\"@type\":\"WebPage\"\x7d"

/-- An article in a graph. -/
def listedArticle : String := "\x7b\"@type\":\"NewsArticle\",\"headline\":\"h\"\x7d"

/-- A graph of `listedPage` and `listedArticle`. -/
def graph : String := "\x7b\"@graph\":[" ++ listedPage ++ "," ++ listedArticle ++ "]\x7d"

theorem derives_listedPage : Derives NoBrace .object listedPage.toList := by
  have key : IsString NoBrace ('"' :: "@type".toList ++ ['"']) := isString_of_forall (by simp [NoBrace])
  have type : IsString NoBrace ('"' :: "WebPage".toList ++ ['"']) := isString_of_forall (by simp [NoBrace])
  exact .object (.lastMember (.member isGap_nil key isGap_nil (.element isGap_nil (.string type) isGap_nil)))

theorem derives_listedArticle : Derives NoBrace .object listedArticle.toList := by
  have key : IsString NoBrace ('"' :: "@type".toList ++ ['"']) := isString_of_forall (by simp [NoBrace])
  have type : IsString NoBrace ('"' :: "NewsArticle".toList ++ ['"']) := isString_of_forall (by simp [NoBrace])
  have key' : IsString NoBrace ('"' :: "headline".toList ++ ['"']) := isString_of_forall (by simp [NoBrace])
  have headline : IsString NoBrace ('"' :: ['h'] ++ ['"']) := isString_of_forall (by simp [NoBrace])
  have typed := Derives.member isGap_nil key isGap_nil (.element isGap_nil (.string type) isGap_nil)
  have headed := Derives.member isGap_nil key' isGap_nil (.element isGap_nil (.string headline) isGap_nil)
  exact .object (.members typed (.lastMember headed))

/-- `bbc` narrows `graph` to `listedArticle`. -/
theorem isArticle_mend_bbc_graph : block? newsArticle graph = some graph ∧ KeepsArticle graph ∧
    bbc.mend graph = listedArticle := by
  have found : block? newsArticle graph = some graph := by decide +kernel
  have bracketed : Bracketed graph.toList (Text.concat ["[", listedPage, ","] ++ listedArticle ++ "]").toList :=
    ⟨"\x7b\"@graph\":".toList, (listedPage ++ "," ++ listedArticle).toList, ['\x7d'], by decide +kernel⟩
  have apart : ∀ piece ∈ ["[", listedPage, ","], Apart newsArticle piece := by
    intro piece mem
    simp only [List.mem_cons, List.not_mem_nil, or_false] at mem
    rcases mem with rfl | rfl | rfl
    · exact .inl (by simp [NoBrace])
    · exact .inr ⟨derives_listedPage, by decide⟩
    · exact .inl (by simp [NoBrace])
  obtain ⟨kept_iff, -, narrowed⟩ := isArticle_mend_bbc_iff found
  have mended := narrowed _ _ _ bracketed apart derives_listedArticle (by decide)
  refine ⟨found, kept_iff.1 ?_, mended⟩
  rw [mended]
  exact isArticle_of_block? (by decide +kernel : block? newsArticle listedArticle = _)

/-- An article that names its topics in a list. -/
def listingArticle : String := "\x7b\"@type\":\"NewsArticle\",\"about\":[\x7b\"name\":\"x\"\x7d]\x7d"

/-- `listingArticle` is found as a block, and `bbc` loses it when it narrows the block. -/
theorem not_forall_isArticle_mend_bbc : ¬ ∀ text block, block? newsArticle text = some block →
    IsBlock (bbc.mend block).toList ∧ mentions newsArticle (bbc.mend block) ∧ bbc.mend block ≠ "\x7b\x7d" := by
  intro claim
  have lost : bbc.mend listingArticle = "\x7b\x7d" := by decide +kernel
  exact (claim listingArticle listingArticle (by decide +kernel)).2.2 lost

end LinkedData

end Gazette
