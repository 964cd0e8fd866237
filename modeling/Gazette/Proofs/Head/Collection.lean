import Gazette.Proofs.Chars.Visible
import Gazette.Proofs.Head.Address
import Mathlib.Data.List.TakeWhile

/-!
# The address through a head

The addresses that a page calls its own are put together by `Head.collect` with commas between them, and
`Head.link?` cuts the first one out of the text again at its first comma. So the address of a head is what the
first of them, `Head.href?`, leads to, if it has no comma of its own. One that has is cut short, and still leads
where it should only where its front part leads there as well: `link?_collect_eq_iff` says so, and `commaHead`
is a head on which the two differ.
-/

namespace Gazette

/-! ## Cutting at a mark -/

namespace Chars

variable (mark : Char)

/-- What `cut?` leaves in front of the first place of a mark is what stands in front of all its places. -/
theorem fst_cut?_getD (cs : List Char) : ((cut? [mark] cs).map Prod.fst).getD cs = cs.takeWhile (· ≠ mark) := by
  induction cs with
  | nil => rfl
  | cons c cs ih =>
    by_cases same : mark = c
    · simp [cut?, after?, same]
    · rw [List.takeWhile_cons_of_pos (by simpa using Ne.symm same), ← ih]
      cases rest : cut? [mark] cs <;> simp [cut?, after?, same, rest]

/-- In the text that `joinWith` makes of pieces, only the first piece stands in front of the first mark. -/
theorem takeWhile_joinWith (piece : List Char) (pieces : List (List Char)) :
    (joinWith [mark] (piece :: pieces)).takeWhile (· ≠ mark) = piece.takeWhile (· ≠ mark) := by
  cases pieces with
  | nil => rfl
  | cons next pieces =>
    have joined : joinWith [mark] (piece :: next :: pieces) = piece ++ ([mark] ++ joinWith [mark] (next :: pieces)) :=
      List.append_assoc piece [mark] _
    rw [joined, List.takeWhile_append]
    split
    next whole =>
      rw [List.singleton_append, List.takeWhile_cons_of_neg (by simp), List.append_nil]
      exact (List.takeWhile_prefix _).eq_of_length whole |>.symm
    next => rfl

end Chars

namespace Text

/-- `Text.headPiece ","` runs up to the first comma. -/
theorem toList_headPiece_comma (s : String) : (headPiece "," s).toList = s.toList.takeWhile (· ≠ ',') := by
  rw [← Chars.fst_cut?_getD, headPiece]
  have comma : ",".toList = [','] := rfl
  rw [comma]
  cases Chars.cut? [','] s.toList with
  | none => rfl
  | some parts => exact String.toList_ofList

/-- `Text.headPiece ","` keeps a text without a comma. -/
theorem headPiece_comma_of_notMem {s : String} (none : ',' ∉ s.toList) : headPiece "," s = s := by
  refine String.toList_inj.1 ?_
  rw [toList_headPiece_comma, List.takeWhile_eq_self_iff]
  intro c mem
  exact decide_eq_true fun same ↦ none (same ▸ mem)

theorem comma_notMem_headPiece (s : String) : ',' ∉ (headPiece "," s).toList := by
  rw [toList_headPiece_comma]
  intro mem
  simpa using List.mem_takeWhile_imp mem

/-- `Text.headPiece ","` of what `joinWith ","` puts together is that of the first text. -/
theorem headPiece_joinWith (value : String) (values : List String) :
    headPiece "," (joinWith "," (value :: values)) = headPiece "," value := by
  refine String.toList_inj.1 ?_
  rw [toList_headPiece_comma, toList_headPiece_comma, joinWith, String.toList_ofList, List.map_cons]
  exact Chars.takeWhile_joinWith ',' value.toList _

/-- `Text.trim` drops no comma. -/
theorem comma_mem_trim (s : String) : ',' ∈ (trim s).toList ↔ ',' ∈ s.toList := by
  rw [trim, toList_via, Chars.mem_trim (by decide)]

end Text

/-! ## What a page calls its address -/

namespace Head

open Html

variable (table : HeadTable) (head : Spot) (pageUrl : String)

/-- The first link in `head` that the selector of `HeadField.link` in `table` means. -/
def href? : Option String := (table.get? .link).bind fun css ↦ (head.all css).findSome? (·.attribute? "href")

/-- `addressAt` of a link, or nothing where there is none. -/
def addressOf : Option String → Except Failure (Option Url)
  | none => .ok none
  | some href => addressAt pageUrl href

/-- The first of the values that `Head.valuesOf` finds for `HeadField.link` is `href?`. -/
theorem head?_valuesOf : (valuesOf table head .link).head? = href? table head := by
  unfold valuesOf href?
  cases table.get? .link with
  | none => rfl
  | some css =>
    simp only [HeadField.holder, Option.bind_some, ← List.head?_filterMap]
    cases (head.all css).filterMap (·.attribute? "href") with
    | nil => rfl
    | cons value values => rw [List.eraseDups_cons, List.head?_cons, List.head?_cons]

/-- `Head.link?` of what `Head.collect` finds is `addressOf` the first piece of `href?`. -/
theorem link?_collect : (collect table head).link? pageUrl =
    addressOf pageUrl ((href? table head).map (Text.headPiece ",")) := by
  have link : (collect table head).link = Text.joinWith "," (valuesOf table head .link) := rfl
  rw [link?_eq_addressAt, link, ← head?_valuesOf]
  cases valuesOf table head .link with
  | nil => exact addressAt_blank (by decide)
  | cons value values => rw [Text.headPiece_joinWith, List.head?_cons, Option.map_some, addressOf]

variable {pageUrl}

/-- `addressAt` of a link with a comma and of its first piece agree only where both lead to one address: the
failures tell different texts. -/
theorem addressAt_headPiece_iff {href : String} (comma : ',' ∈ href.toList) :
    addressAt pageUrl (Text.headPiece "," href) = addressAt pageUrl href ↔
      ∃ url, addressAt pageUrl (Text.headPiece "," href) = .ok (some url) ∧
        addressAt pageUrl href = .ok (some url) := by
  have kept : ',' ∈ (Text.trim href).toList := (Text.comma_mem_trim href).2 comma
  refine ⟨fun same ↦ ?_, fun ⟨url, front, whole⟩ ↦ front.trans whole.symm⟩
  cases whole : addressAt pageUrl href with
  | ok url? =>
    cases url? with
    | none =>
      refine absurd whole (addressAt_ne_none fun blank ↦ ?_)
      simp [blank] at kept
    | some url => exact ⟨url, same.trans whole, rfl⟩
  | error failure =>
    obtain ⟨e, -, told⟩ := exists_of_addressAt_eq_error whole
    obtain ⟨e', -, toldFront⟩ := exists_of_addressAt_eq_error (same.trans whole)
    have texts : Text.trim href = Text.trim (Text.headPiece "," href) := by
      have causes := told.symm.trans toldFront
      simp only [Failure.of, Failure.mk.injEq, Option.some.injEq, Cause.badLink.injEq] at causes
      exact causes.2.2.2.2.1
    rw [texts, Text.comma_mem_trim] at kept
    exact absurd kept (Text.comma_notMem_headPiece href)

/-- `Head.link?` of what `Head.collect` finds is `addressOf` the first piece of `href?`. It is `addressOf` the
whole of `href?` exactly if that has no comma or its first piece leads to the same address. -/
theorem link?_collect_eq_iff :
    (collect table head).link? pageUrl = addressOf pageUrl ((href? table head).map (Text.headPiece ",")) ∧
      ((collect table head).link? pageUrl = addressOf pageUrl (href? table head) ↔
        ∀ href, href? table head = some href → ',' ∈ href.toList →
          ∃ url, addressAt pageUrl (Text.headPiece "," href) = .ok (some url) ∧
            addressAt pageUrl href = .ok (some url)) := by
  refine ⟨link?_collect table head pageUrl, ?_⟩
  rw [link?_collect]
  cases href? table head with
  | none => simp
  | some href =>
    simp only [Option.map_some, addressOf, Option.some.injEq, forall_eq']
    by_cases comma : ',' ∈ href.toList
    · simpa [comma] using addressAt_headPiece_iff comma
    · simp [comma, Text.headPiece_comma_of_notMem comma]

/-! ## A head whose address has a comma -/

/-- A head that names an address with a comma. -/
def commaHead : Spot :=
  .mk (.element 0 ⟨.html, "head"⟩ []
    [.element 1 ⟨.html, "link"⟩ [⟨"rel", "canonical", false⟩, ⟨"href", "/a,b", false⟩] []]) [] [] none

/-- So `Head.link?` is not always `addressOf` the whole of `href?`: on `commaHead` it is not. -/
theorem not_forall_link?_collect :
    ¬ ∀ (table : HeadTable) (head : Spot) (pageUrl : String),
      (collect table head).link? pageUrl = addressOf pageUrl (href? table head) := by
  intro always
  have cut : ((collect .standard commaHead).link? "http://[::1]/").toOption.join.map Url.href =
      some "http://[::1]/a" := by decide +kernel
  have whole : (addressOf "http://[::1]/" (href? .standard commaHead)).toOption.join.map Url.href =
      some "http://[::1]/a,b" := by decide +kernel
  rw [always, whole] at cut
  exact absurd cut (by decide)

end Head

end Gazette
