import Gazette.Article.Fingerprint
import Gazette.Proofs.Time.Timestamps
import Mathlib.Data.List.Basic

/-!
# What a fingerprint keeps apart

`Article.hashKey`, the key of a fingerprint, is put together without marks between title, address and content,
and only the day stands behind an `@`. No `Article.dayText` has an `@` in it, so the last `@` of a key tells the
day from all else, whatever the address looks like (`encode_hashKey_eq_iff`). Of the other three parts each one
can be told if the two others are known: `hashKey_separates`.
-/

namespace Gazette

/-- `Utf8.encode` is injective on runs of characters. -/
theorem Utf8.encode_injective : Function.Injective Utf8.encode := fun _ _ same ↦
  String.ofList_injective (String.toByteArray_inj.1 (congrArg List.toByteArray same))

namespace Time

/-! ## Days -/

theorem padded_injective (width : Nat) : Function.Injective (padded width) := by
  intro m n same
  have value := congrArg (Number.valueIn 10) same
  rwa [valueIn_padded, valueIn_padded] at value

theorem yearText_injective : Function.Injective yearText := by
  intro y y' same
  -- A year that four digits hold begins with a digit, and any other with its sign.
  have digit (n : Nat) (c : Char) (cs : List Char) (row : padded 4 n = c :: cs) : c.isDigit :=
    isDigit_of_mem_padded (row ▸ List.mem_cons_self : c ∈ padded 4 n)
  have unsigned (sign : Prop) [Decidable sign] : ¬ (if sign then '-' else '+').isDigit := by
    split <;> decide
  unfold yearText at same
  by_cases small : 0 ≤ y ∧ y ≤ 9999
  · by_cases small' : 0 ≤ y' ∧ y' ≤ 9999
    · rw [if_pos small, if_pos small'] at same
      have number := padded_injective 4 same
      omega
    · rw [if_pos small, if_neg small'] at same
      exact absurd (digit _ _ _ same) (unsigned _)
  · by_cases small' : 0 ≤ y' ∧ y' ≤ 9999
    · rw [if_neg small, if_pos small'] at same
      exact absurd (digit _ _ _ same.symm) (unsigned _)
    · rw [if_neg small, if_neg small'] at same
      obtain ⟨sign, digits⟩ := List.cons.inj same
      have number := padded_injective 4 digits
      have signs : y < 0 ↔ y' < 0 := by
        by_cases negative : y < 0 <;> by_cases negative' : y' < 0 <;> simp [negative, negative'] at sign ⊢
      omega

namespace Instant

/-- `padded 2` writes month and day of a date in two digits each. -/
theorem length_monthAndDay (t : Instant) :
    ('-' :: padded 2 t.date.month).length = 3 ∧ ('-' :: padded 2 t.date.day).length = 3 := by
  have valid : t.date.isValid := Date.isValid_ofDays t.day
  have days : daysInMonth t.date.year t.date.month ≤ 31 := by
    unfold daysInMonth
    split <;> split <;> omega
  simp only [Date.isValid, Bool.and_eq_true, decide_eq_true_iff] at valid
  obtain ⟨⟨⟨-, month⟩, -⟩, day⟩ := valid
  rw [List.length_cons, List.length_cons, length_padded (by decide) (show t.date.month < 100 by omega),
    length_padded (by decide) (show t.date.day < 100 by omega)]
  exact ⟨rfl, rfl⟩

/-- `Instant.dateText` tells the day, and only the day. -/
theorem dateText_eq_iff {t t' : Instant} : t.dateText = t'.dateText ↔ t.day = t'.day := by
  constructor
  · intro same
    obtain ⟨months, days⟩ := t.length_monthAndDay
    obtain ⟨months', days'⟩ := t'.length_monthAndDay
    obtain ⟨front, day⟩ := List.append_inj' same (days.trans days'.symm)
    obtain ⟨year, month⟩ := List.append_inj' front (months.trans months'.symm)
    have date : t.date = t'.date := by
      rw [Date.mk.injEq]
      exact ⟨yearText_injective year, padded_injective 2 (List.cons.inj month).2,
        padded_injective 2 (List.cons.inj day).2⟩
    rw [← Date.toDays_ofDays t.day, ← Date.toDays_ofDays t'.day]
    exact congrArg Date.toDays date
  · intro same
    unfold dateText date
    rw [same]

/-- `Instant.dateText` is written with digits and signs. -/
theorem mem_dateText {t : Instant} {c : Char} (mem : c ∈ t.dateText) : c.isDigit ∨ c = '-' ∨ c = '+' := by
  have digit {width n : Nat} (mem : c ∈ padded width n) : c.isDigit := isDigit_of_mem_padded mem
  unfold dateText yearText at mem
  simp only [List.mem_append, List.mem_cons] at mem
  rcases mem with (year | mark | month) | mark | day
  · split at year
    · exact .inl (digit year)
    · rcases List.mem_cons.1 year with sign | number
      · split at sign
        · exact .inr (.inl sign)
        · exact .inr (.inr sign)
      · exact .inl (digit number)
  · exact .inr (.inl mark)
  · exact .inl (digit month)
  · exact .inr (.inl mark)
  · exact .inl (digit day)

end Instant

end Time

namespace Article

/-! ## The parts of a key -/

theorem toText_ne_nil (u : Url) : u.toText ≠ [] := by
  simp [Url.toText, Url.toTextWithoutFragment, Url.stemText]

variable {a b : Article}

/-- `Article.linkText`, empty if there is no address, tells whether there is one and which. -/
theorem linkText_eq_iff : a.linkText = b.linkText ↔ a.link.map Url.href = b.link.map Url.href := by
  have some (u : Url) : u.href ≠ "" := fun none ↦ toText_ne_nil u (String.ofList_injective none)
  unfold linkText
  cases a.link with
  | none =>
    cases b.link with
    | none => simp
    | some u => simp [(some u).symm]
  | some u =>
    cases b.link with
    | none => simp [some u]
    | some v => simp

theorem dateText_ne_nil (t : Time.Instant) : t.dateText ≠ [] := by
  simp [Time.Instant.dateText]

/-- `Article.dayText`, empty if the day is not known, tells whether it is known and which it is. -/
theorem dayText_eq_iff :
    a.dayText = b.dayText ↔ a.published.map Time.Instant.day = b.published.map Time.Instant.day := by
  unfold dayText
  cases a.published with
  | none =>
    cases b.published with
    | none => simp
    | some t => simp [(dateText_ne_nil t).symm]
  | some t =>
    cases b.published with
    | none => simp [dateText_ne_nil t]
    | some t' => simp [Time.Instant.dateText_eq_iff]

/-- No `Article.dayText` has the `@` in it that stands in front of the day. -/
theorem mark_notMem_dayText : '@' ∉ a.dayText := by
  unfold dayText
  cases a.published with
  | none => exact List.not_mem_nil
  | some t =>
    intro mem
    rcases Time.Instant.mem_dateText mem with digit | minus | plus
    · exact absurd digit (by decide)
    · exact absurd minus (by decide)
    · exact absurd plus (by decide)

/-- The last place of a mark can be found from behind. -/
theorem append_mark_inj {mark : Char} {front front' back back' : List Char} (none : mark ∉ back)
    (none' : mark ∉ back') : front ++ mark :: back = front' ++ mark :: back' ↔ front = front' ∧ back = back' := by
  constructor
  · intro same
    rcases List.append_eq_append_iff.1 same with ⟨more, front_eq, tail⟩ | ⟨more, front_eq, tail⟩
    · cases more with
      | nil => exact ⟨by simpa using front_eq.symm, (List.cons.inj tail).2⟩
      | cons c more => exact absurd ((List.cons.inj tail).2 ▸ by simp) none
    · cases more with
      | nil => exact ⟨by simpa using front_eq, (List.cons.inj tail).2.symm⟩
      | cons c more => exact absurd ((List.cons.inj tail).2 ▸ by simp) none'
  · rintro ⟨rfl, rfl⟩
    rfl

/-- The bytes of `hashKey` are the same exactly if `dayText` is and if title, address and content are, put
together. -/
theorem encode_hashKey_eq_iff : Utf8.encode a.hashKey = Utf8.encode b.hashKey ↔
    ((Text.fingerprint a.title).toList ++ a.linkText.toList ++ (Text.fingerprint (Text.concat a.content)).toList =
      (Text.fingerprint b.title).toList ++ b.linkText.toList ++ (Text.fingerprint (Text.concat b.content)).toList) ∧
    a.published.map Time.Instant.day = b.published.map Time.Instant.day := by
  rw [Utf8.encode_injective.eq_iff, hashKey, hashKey, append_mark_inj mark_notMem_dayText mark_notMem_dayText,
    dayText_eq_iff]

/-! ## Telling records apart -/

/-- The bytes of `hashKey` are the same for two records with the same `Text.fingerprint` of title and of content
exactly if their addresses are the same and they were published on the same day. Where addresses and days are the
same, a difference of the fingerprints of title alone or of content alone shows in the bytes. -/
theorem hashKey_separates :
    (∀ a b : Article, Text.fingerprint a.title = Text.fingerprint b.title →
      Text.fingerprint (Text.concat a.content) = Text.fingerprint (Text.concat b.content) →
      (Utf8.encode a.hashKey = Utf8.encode b.hashKey ↔
        a.link.map Url.href = b.link.map Url.href ∧
          a.published.map Time.Instant.day = b.published.map Time.Instant.day)) ∧
    ∀ a b : Article, a.link.map Url.href = b.link.map Url.href →
      a.published.map Time.Instant.day = b.published.map Time.Instant.day →
      (Text.fingerprint (Text.concat a.content) = Text.fingerprint (Text.concat b.content) →
        (Utf8.encode a.hashKey = Utf8.encode b.hashKey ↔
          Text.fingerprint a.title = Text.fingerprint b.title)) ∧
      (Text.fingerprint a.title = Text.fingerprint b.title →
        (Utf8.encode a.hashKey = Utf8.encode b.hashKey ↔
          Text.fingerprint (Text.concat a.content) = Text.fingerprint (Text.concat b.content))) := by
  refine ⟨fun a b title content ↦ ?_, fun a b link day ↦ ⟨fun content ↦ ?_, fun title ↦ ?_⟩⟩
  · rw [encode_hashKey_eq_iff, title, content, List.append_cancel_right_eq, List.append_cancel_left_eq,
      String.toList_inj, linkText_eq_iff]
  · rw [encode_hashKey_eq_iff, and_iff_left day, content, linkText_eq_iff.2 link, List.append_cancel_right_eq,
      List.append_cancel_right_eq, String.toList_inj]
  · rw [encode_hashKey_eq_iff, and_iff_left day, title, linkText_eq_iff.2 link, List.append_cancel_left_eq,
      String.toList_inj]

/-! ## A record and three others -/

/-- A record with an `@` in its address. -/
def marked : Article where
  title := "甲！"
  link := some ⟨"mailto".toList, none, "a@1970-01-01".toList, none, none⟩
  content := ["乙，", "丙。"]
  published := some ⟨0, 1, 0⟩

/-- The record `marked` with another address, other marks between its words and another time of the day. -/
def moved : Article where
  title := "甲"
  link := some ⟨"mailto".toList, none, "a@1970-01-02".toList, none, none⟩
  content := ["乙丙"]
  published := some ⟨0, 2, 0⟩

/-- The bytes of `marked` are those of none of three others: one with another address, one with another title and
one with other content. -/
theorem hashKey_separates_marked :
    (Text.fingerprint marked.title = Text.fingerprint moved.title ∧
      Text.fingerprint (Text.concat marked.content) = Text.fingerprint (Text.concat moved.content) ∧
      Utf8.encode marked.hashKey ≠ Utf8.encode moved.hashKey) ∧
    Utf8.encode marked.hashKey ≠ Utf8.encode { marked with title := "丁" }.hashKey ∧
    Utf8.encode marked.hashKey ≠ Utf8.encode { marked with content := ["丁"] }.hashKey := by
  have title : Text.fingerprint marked.title = Text.fingerprint moved.title := by decide +kernel
  have content : Text.fingerprint (Text.concat marked.content) = Text.fingerprint (Text.concat moved.content) := by
    decide +kernel
  obtain ⟨elsewhere, here⟩ := hashKey_separates
  obtain ⟨retitled, -⟩ := here marked { marked with title := "丁" } rfl rfl
  obtain ⟨-, rewritten⟩ := here marked { marked with content := ["丁"] } rfl rfl
  refine ⟨⟨title, content, ?_⟩, ?_, ?_⟩
  · rw [ne_eq, elsewhere marked moved title content]
    decide +kernel
  · rw [ne_eq, retitled rfl]
    decide +kernel
  · rw [ne_eq, rewritten rfl]
    decide +kernel

end Article

end Gazette
