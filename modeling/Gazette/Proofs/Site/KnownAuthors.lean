import Gazette.Proofs.Site.Authors
import Gazette.Proofs.Site.Credits

/-!
# Authors that are known

A body may name other authors than those that are known from linked data or a head, or more of them. Eleven of
the sites keep those that are known where the body names nobody (`named_fromBody`). The Central News Agency
takes the authors from the credit of the last paragraph as soon as there is one, and with a credit in which
nobody is named, `Byline.Anonymous`, it loses those that were known: `authors_fromBody_ne_nil_iff`.
-/

namespace Gazette

open Html

namespace Byline

/-- A paragraph has a credit in which nobody is named. -/
def Anonymous (s : String) : Prop :=
  ∃ credit, Chars.firstSome? credit? s.toList = some credit ∧ ∀ piece ∈ Chars.splitAtChar '/' credit, Nameless piece

/-- `credited?` reads a credit without names exactly off an `Anonymous` paragraph. -/
theorem credited?_eq_some_nil_iff {s : String} : credited? s = some [] ↔ Anonymous s := by
  rw [credited?_eq, Option.map_eq_some_iff]
  simp only [namesOf_eq_nil_iff, Anonymous]

end Byline

namespace Site

open Article

/-- But for the news agency `Site.fromBody` keeps known authors, or names others. -/
theorem named_fromBody {site : Site} (known : site ∈ Registry.knownSites) (other : site.name ≠ newsAgency.name)
    (body : Spot) {a : Article} (named : a.authors ≠ []) : (site.fromBody body a).1.authors ≠ [] := by
  by_cases telling : site.name ∈ [ettoday.name, setn.name]
  · induction site, known using Registry.known_cases with
    | ettoday =>
      rw [((told_ettodayBody a body).whole (.inl named)).1]
      exact named
    | setn =>
      rw [((told_setnBody a body).whole (.inl named)).1]
      exact named
    | _ => exact absurd telling (by decide)
  · exact (attributed_fromBody body a known (List.not_mem_cons_of_ne_of_not_mem other telling)).named named

/-- `newsAgency` loses known authors exactly if the last paragraph is `Anonymous`. -/
theorem named_newsAgencyBody_iff (body : Spot) {a : Article} (named : a.authors ≠ []) :
    (newsAgency.fromBody body a).1.authors ≠ [] ↔
      ¬ ∃ last, (a.content ++ agencyParagraphs body).getLast? = some last ∧ Byline.Anonymous last := by
  simp only [newsAgency]
  rw [authors_newsAgencyBody]
  simp only [← Byline.credited?_eq_some_nil_iff, ← Option.bind_eq_some_iff]
  cases (a.content ++ agencyParagraphs body).getLast?.bind Byline.credited? with
  | none => simpa using named
  | some names => simp

/-- `Site.fromBody` loses known authors exactly where the last paragraph of a record of `newsAgency` is
`Anonymous`. -/
theorem authors_fromBody_ne_nil_iff {site : Site} (known : site ∈ Registry.knownSites) {a : Article}
    (named : a.authors ≠ []) (body : Spot) : (site.fromBody body a).1.authors ≠ [] ↔
      ¬ (site.name = newsAgency.name ∧
        ∃ last, (a.content ++ agencyParagraphs body).getLast? = some last ∧ Byline.Anonymous last) := by
  by_cases agency : site.name = newsAgency.name
  · induction site, known using Registry.known_cases with
    | newsAgency =>
      rw [named_newsAgencyBody_iff body named]
      simp
    | _ => exact absurd agency (by decide)
  · exact iff_of_true (named_fromBody known agency body named) fun lost ↦ agency lost.1

/-! ## A credit that names nobody -/

/-- A body of a page of the news agency with one paragraph, the credit of which names nobody. -/
def unnamedCredit : Spot :=
  let block (serial : Nat) (kind : String) (children : List Node) :=
    Node.element serial ⟨.html, "div"⟩ [{ name := "class", value := kind }] children
  let credit := Node.element 4 ⟨.html, "p"⟩ [] [.text "結束。（編輯：）1120823"]
  .mk (.element 1 ⟨.html, "body"⟩ [] [block 2 "centralContent" [block 3 "paragraph" [credit]]]) [] [] none

theorem lost_unnamedCredit : ∃ last, (([] : List String) ++ agencyParagraphs unnamedCredit).getLast? = some last ∧
    Byline.Anonymous last := by
  refine ⟨"結束。（編輯：）1120823", by decide +kernel, ?_⟩
  exact Byline.credited?_eq_some_nil_iff.1 (by decide +kernel)

/-- With the body `unnamedCredit` the author that was known is lost. -/
theorem authors_fromBody_unnamedCredit :
    newsAgency ∈ Registry.knownSites ∧ ¬ (newsAgency.fromBody unnamedCredit { authors := ["甲"] }).1.authors ≠ [] := by
  have known : newsAgency ∈ Registry.knownSites := by simp [Registry.knownSites]
  have named : ({ authors := ["甲"] } : Article).authors ≠ [] := List.cons_ne_nil _ _
  exact ⟨known, fun kept ↦ (authors_fromBody_ne_nil_iff known named unnamedCredit).1 kept ⟨rfl, lost_unnamedCredit⟩⟩

/-- So known authors are not always kept. -/
theorem not_forall_authors_fromBody :
    ¬ ∀ site ∈ Registry.knownSites, ∀ (a : Article) (body : Spot), a.authors ≠ [] →
      (site.fromBody body a).1.authors ≠ [] := by
  intro always
  have known : newsAgency ∈ Registry.knownSites := by simp [Registry.knownSites]
  have named : ({ authors := ["甲"] } : Article).authors ≠ [] := List.cons_ne_nil _ _
  have kept := always newsAgency known { authors := ["甲"] } unnamedCredit named
  exact (named_newsAgencyBody_iff unnamedCredit named).1 kept lost_unnamedCredit

end Site

end Gazette
