import Gazette.Proofs.Article.Outline
import Gazette.Proofs.Failure.Issues

/-!
# The issues of links

A link to a related article that `Url.resolve` refuses becomes an issue under its own text. `Issues.OfLinks link
links issues` says that `issues` are those of `links` next to the address `link` and no others;
`Article.collectRelated` keeps it, and so does `Issues.extend`. A plain word can only fail to be resolved
against an opaque address (`Url.exists_resolve_eq_error_iff`).
-/

namespace Gazette

/-! ## Plain words as links -/

/-- `Url.resolve` refuses a relative path without a slash in front exactly next to an opaque address. -/
theorem Url.exists_resolve_eq_error_iff {link : Url} {word : String} {c : Char} {rest : List Char}
    (clean : tidy (Chars.trim word.toList) = c :: rest) (noScheme : scheme? (c :: rest) = none)
    (noSlash : isSlash c = false) (noEnd : endsPath c = false)
    (noDrive : startsWithDrive (c :: rest) = false) :
    (∃ e, resolve (some link) word = .error e) ↔ link.isOpaque := by
  have noQuery : c ≠ '?' := by
    rintro rfl
    exact absurd noEnd (by decide)
  have noFragment : c ≠ '#' := by
    rintro rfl
    exact absurd noEnd (by decide)
  have file : ∃ u, fileRelativeTo (some link) (c :: rest) = .ok u := by
    cases rest <;>
      simp [fileRelativeTo, fileRelativeTo.single, noSlash, noQuery, noFragment, noDrive]
  have other : ∃ u, relativeTo link (c :: rest) = .ok u := by
    simp [relativeTo, noSlash]
  simp only [resolve, join, read, String.toList_ofList, clean, noScheme, List.head?_cons,
    Option.some.injEq, noFragment, if_false]
  by_cases closed : link.isOpaque
  · simp [closed]
  · rw [if_neg closed]
    obtain ⟨u, file⟩ := file
    obtain ⟨v, other⟩ := other
    split <;> simp [closed, file, other]

/-! ## Issues -/

/-- The failure to resolve `href` next to `link`, if `Url.resolve` refuses it. -/
def linkFailure? (link : Option Url) (href : String) : Option Failure :=
  match Url.resolve link href with
  | .ok _ => none
  | .error e => some (.of .relatedLink href "ParseBody" (some (.badHref href e)))

/-- A `linkFailure?` is of the kind `FailureKind.relatedLink`. -/
theorem kind_of_linkFailure? {link : Option Url} {href : String} {failure : Failure}
    (h : linkFailure? link href = some failure) : failure.kind = .relatedLink := by
  unfold linkFailure? at h
  split at h
  · cases h
  · cases h
    rfl

/-- The issues are the `linkFailure?` of some links, each under its text. -/
def Issues.OfLinks (link : Option Url) (links : List String) (issues : Issues) : Prop :=
  ∀ key, issues.get? key = if key ∈ links then linkFailure? link key else none

variable {link : Option Url} {links others : List String} {issues more : Issues}

theorem Issues.ofLinks_nil : OfLinks link [] Table.empty := fun _ ↦ rfl

/-- `Issues.extend` puts issues of links together to those of all these links. -/
theorem Issues.OfLinks.extend (h : OfLinks link links issues) (hm : OfLinks link others more) :
    OfLinks link (links ++ others) (issues.extend more) := by
  intro key
  rw [get?_extend, h key, hm key]
  by_cases left : key ∈ links <;> by_cases right : key ∈ others <;> simp [left, right]

namespace Article

theorem link_eq_of_outline_eq {a b : Article} (h : a.outline = b.outline) : a.link = b.link :=
  congrArg Outline.link h

variable (guid : Url → String)

/-- `relate` notes a link as an issue exactly if it cannot be resolved. -/
theorem ofLinks_relate {found : Article × Issues} (h : found.2.OfLinks found.1.link links)
    (href : String) :
    (relate guid found href).2.OfLinks found.1.link (links ++ [href]) := by
  intro key
  have before := h key
  unfold relate
  by_cases same : key = href
  · subst same
    cases resolved : Url.resolve found.1.link key with
    | ok url => simp [before, linkFailure?, resolved]
    | error e => simp [linkFailure?, resolved]
  · cases resolved : Url.resolve found.1.link href with
    | ok url => simp [before, same]
    | error e => simp [before, same]

/-- `relate` keeps the address of a record. -/
theorem link_relate (found : Article × Issues) (href : String) :
    (relate guid found href).1.link = found.1.link :=
  link_eq_of_outline_eq (outline_relate guid found href)

/-- `relate` over one link after the other brings the issues of all of them. -/
theorem ofLinks_foldl_relate (found : Article × Issues) (h : found.2.OfLinks found.1.link links) :
    (others.foldl (relate guid) found).2.OfLinks found.1.link (links ++ others) := by
  induction others generalizing found links with
  | nil => simpa using h
  | cons href rest ih =>
    have step := ofLinks_relate guid h href
    rw [← link_relate guid found href] at step
    have rest := ih (relate guid found href) step
    rw [link_relate, List.append_assoc] at rest
    exact rest

variable {a : Article} (kept : a.link = link) (root : Html.Spot)
include kept

/-- The issues of `collectRelated` are those of the `hrefs` that its selector means. -/
theorem ofLinks_collectRelated (css : String) (keep : String → Bool) :
    (a.collectRelated guid root css keep).2.OfLinks link (hrefs root css keep) := by
  subst kept
  exact ofLinks_foldl_relate guid (a, Table.empty) Issues.ofLinks_nil

/-- The issues of `collectRelatedTwice` are those of the `hrefs` that either selector means. -/
theorem ofLinks_collectRelatedTwice (css more : String) (keep : String → Bool) :
    (a.collectRelatedTwice guid root css more keep).2.OfLinks link
      (hrefs root css keep ++ hrefs root more keep) := by
  have still := link_eq_of_outline_eq (outline_collectRelated a guid root css keep)
  have first := ofLinks_collectRelated guid kept root css keep
  exact first.extend (ofLinks_collectRelated guid (still.trans kept) root more keep)

end Article

end Gazette
