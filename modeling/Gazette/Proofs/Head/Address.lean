import Gazette.Head.Basic

/-!
# The address in a head

A head names an address as a text, and on its page that text leads somewhere, leads nowhere, or is blank.
`Head.addressAt` says which, and `Head.link?` is `addressAt` of the text in front of the first comma
(`link?_eq_addressAt`). A text that leads nowhere costs a draft its `link` and its `guid`; `Head.fill` fills all
else as it does for `Head.withoutLink`, the head that names no address (`fill_of_unreadable`).
-/

namespace Gazette.Head

/-- What a text leads to as an address on the page at `pageUrl`: to nothing if it is blank, else to what it means
next to `pageUrl` by `Url.resolve` or, where it means nothing there, alone by `Url.parse`. -/
def addressAt (pageUrl text : String) : Except Failure (Option Url) :=
  if Text.trim text = "" then .ok none
  else match Url.parse pageUrl >>= fun base ↦ Url.resolve (some base) text with
    | .ok url => .ok (some url)
    | .error _ =>
      match Url.resolve none text with
      | .ok url => .ok (some url)
      | .error e => .error (.of .extract pageUrl "ParseMeta" (some (.badLink (Text.trim text) e)))

variable {pageUrl text : String} {failure : Failure}

theorem addressAt_blank (blank : Text.trim text = "") : addressAt pageUrl text = .ok none := if_pos blank

/-- `addressAt` of a text that is not blank is an address or a failure. -/
theorem addressAt_ne_none (visible : Text.trim text ≠ "") : addressAt pageUrl text ≠ .ok none := by
  rw [addressAt, if_neg visible]
  cases Url.parse pageUrl >>= fun base ↦ Url.resolve (some base) text with
  | ok url => simp
  | error e => cases Url.resolve none text <;> simp

/-- Where `addressAt` fails, `Url.parse` fails as well, and the failure has its error as `Cause.badLink`. -/
theorem exists_of_addressAt_eq_error (failed : addressAt pageUrl text = .error failure) :
    ∃ e, Url.parse (Text.trim text) = .error e ∧
      failure = .of .extract pageUrl "ParseMeta" (some (.badLink (Text.trim text) e)) := by
  unfold addressAt at failed
  split at failed
  · cases failed
  · split at failed
    · cases failed
    · split at failed
      · cases failed
      next e alone =>
        cases failed
        exact ⟨e, alone, rfl⟩

variable {h : Head}

/-- `Head.link?` is `addressAt` of the text in front of the first comma. -/
theorem link?_eq_addressAt : h.link? pageUrl = addressAt pageUrl (Text.headPiece "," h.link) := by
  rw [link?, linkText, addressAt]
  generalize Text.headPiece "," h.link = text
  have beside : (fun base ↦ Url.resolve (some base) text) = fun base ↦ base.join (Text.trim text) := rfl
  have alone : Url.resolve none text = Url.parse (Text.trim text) := rfl
  rw [beside, alone]
  by_cases blank : Text.trim text = ""
  · exact (if_pos (String.isEmpty_iff.2 blank)).trans (if_pos blank).symm
  · refine (if_neg (mt String.isEmpty_iff.1 blank)).trans (Eq.trans ?_ (if_neg blank).symm)
    cases Url.parse pageUrl >>= fun base ↦ base.join (Text.trim text) with
    | ok url => rfl
    | error _ => cases Url.parse (Text.trim text) <;> rfl

/-! ## Heads without an address -/

/-- The head `h` with no text for its address. -/
def withoutLink (h : Head) : Head := { h with link := "" }

@[simp] theorem title_withoutLink : h.withoutLink.title = h.title := rfl

@[simp] theorem author_withoutLink : h.withoutLink.author = h.author := rfl

@[simp] theorem instantWithOffset?_withoutLink (offset : String) :
    h.withoutLink.instantWithOffset? offset = h.instantWithOffset? offset := rfl

theorem link?_withoutLink : h.withoutLink.link? pageUrl = .ok none := by
  rw [link?_eq_addressAt]
  have blank : Text.trim (Text.headPiece "," "") = "" := by decide
  exact addressAt_blank blank

/-- `Head.fill` leaves a draft without `link` and `guid` where the head names no address. -/
theorem link_fill_withoutLink (guid : Url → String) : (h.withoutLink.fill pageUrl guid {}).1.link = none := by
  rw [fill, link?_withoutLink]

/-- Where `Head.link?` fails, `Head.fill` fills a draft as it does for `withoutLink`, and gives the failure. -/
theorem fill_of_unreadable (failed : h.link? pageUrl = .error failure) (guid : Url → String) :
    h.fill pageUrl guid {} = ((h.withoutLink.fill pageUrl guid {}).1, some failure) := by
  rw [fill, fill, failed, link?_withoutLink]
  rfl

end Gazette.Head
