import Gazette.Proofs.Json.Units
import Gazette.Proofs.Text.Keywords
import Mathlib.Data.List.Infix

/-!
# Escapes in keywords

A text resolves if it is a row of characters that are no backslashes and of escapes that name characters
(`Text.Resolves`); what it resolves to is what it is read as between quotes (`Resolves.quoted`). A text that
does not resolve cannot be read so, provided that none of its backslashes begins an escape of one letter
(`OnlyUnits`), and then `Text.unescape` leaves it as it is.

Whatever characters a keyword has, commas and white space among them, the text of its `Json.Escapes` has none of
these. So cutting at commas and trimming, which `Text.keywords` does first, leave keywords that are spelled in
escapes as they are.
-/

namespace Gazette.Text

/-! ## Texts with escapes -/

/-- `Resolves cs ds`: the text `cs` is a row of the characters `ds`, of which backslashes have to be named by
escapes and the others may be. -/
inductive Resolves : List Char → List Char → Prop
  /-- Nothing stands for itself. -/
  | nil : Resolves [] []
  /-- A character that is no backslash stands for itself. -/
  | char {c : Char} {cs ds : List Char} (plain : c ≠ '\\') (others : Resolves cs ds) : Resolves (c :: cs) (c :: ds)
  /-- The escapes of its units stand for a character. -/
  | escape {c : Char} {letters cs ds : List Char} (named : Json.Escapes (Chars.units c) letters)
      (others : Resolves cs ds) : Resolves (letters ++ cs) (c :: ds)

/-- Each backslash of a run begins the escape of a unit, or what goes wrong as one. -/
def OnlyUnits (cs : List Char) : Prop := ∀ rest, '\\' :: rest <:+ cs → rest.head? = some 'u'

instance (cs : List Char) : Decidable (OnlyUnits cs) :=
  decidable_of_iff (∀ tail ∈ cs.tails, tail.head? = some '\\' → tail.tail.head? = some 'u') (by
    simp only [List.mem_tails]
    constructor
    · exact fun h rest suffix ↦ h _ suffix rfl
    · rintro h (_ | ⟨c, rest⟩) suffix first
      · cases first
      · cases first
        exact h rest suffix)

/-- A text with a backslash in front of each quote, as `Text.unescape` hands it to the reader of strings. -/
def guarded (cs : List Char) : List Char := Chars.replace ['"'] ['\\', '"'] cs

theorem guarded_quote (cs : List Char) : guarded ('"' :: cs) = '\\' :: '"' :: guarded cs := by
  unfold guarded
  rw [Chars.replace_cons]
  rfl

theorem guarded_cons {c : Char} (other : c ≠ '"') (cs : List Char) : guarded (c :: cs) = c :: guarded cs := by
  unfold guarded
  rw [Chars.replace_cons, if_neg other]
  rfl

theorem guarded_append {letters : List Char} (none : '"' ∉ letters) (cs : List Char) :
    guarded (letters ++ cs) = letters ++ guarded cs := by
  induction letters with
  | nil => rfl
  | cons c letters ih =>
    obtain ⟨other, rest⟩ := List.ne_and_not_mem_of_not_mem_cons none
    rw [List.cons_append, guarded_cons other.symm, ih rest, List.cons_append]

/-- What may stand in front of a `guarded` run and the quote behind it. -/
theorem guarded_cases {c : Char} {cs more : List Char} (row : guarded cs ++ ['"'] = c :: more) :
    (cs = [] ∧ c = '"' ∧ more = []) ∨
      (∃ rest, cs = '"' :: rest ∧ c = '\\' ∧ more = '"' :: (guarded rest ++ ['"'])) ∨
      (c ≠ '"' ∧ ∃ rest, cs = c :: rest ∧ more = guarded rest ++ ['"']) := by
  rcases cs with _ | ⟨d, rest⟩
  · obtain ⟨rfl, rfl⟩ := List.cons.inj row
    exact .inl ⟨rfl, rfl, rfl⟩
  by_cases quote : d = '"'
  · subst quote
    rw [guarded_quote] at row
    obtain ⟨rfl, rfl⟩ := List.cons.inj row
    exact .inr (.inl ⟨rest, rfl, rfl, rfl⟩)
  · rw [guarded_cons quote] at row
    obtain ⟨rfl, rfl⟩ := List.cons.inj row
    exact .inr (.inr ⟨quote, rest, rfl, rfl⟩)

theorem OnlyUnits.tail {c : Char} {cs : List Char} (h : OnlyUnits (c :: cs)) : OnlyUnits cs :=
  fun rest suffix ↦ h rest (suffix.trans (List.suffix_cons c cs))

theorem OnlyUnits.of_append {front cs : List Char} (h : OnlyUnits (front ++ cs)) : OnlyUnits cs :=
  fun rest suffix ↦ h rest (suffix.trans (List.suffix_append front cs))

/-- A character that `Text.keywords` neither cuts at nor trims. -/
structure Inert (c : Char) : Prop where
  /-- It is not guarded. -/
  notQuote : c ≠ '"'
  /-- It does not cut. -/
  notComma : c ≠ ','
  /-- It is not trimmed. -/
  notBlank : Chars.isBlank c = false
  /-- It may stand in a string. -/
  visible : Json.IsVisible c

instance (c : Char) : Decidable (Inert c) :=
  decidable_of_iff (c ≠ '"' ∧ c ≠ ',' ∧ Chars.isBlank c = false ∧ Json.IsVisible c)
    ⟨fun ⟨quote, comma, blank, visible⟩ ↦ ⟨quote, comma, blank, visible⟩,
      fun h ↦ ⟨h.notQuote, h.notComma, h.notBlank, h.visible⟩⟩

theorem inert_of_isHexDigit {c : Char} (hex : Number.isHexDigit c) : Inert c ∧ c ≠ '\\' :=
  Number.forall_isHexDigit (fun c ↦ Inert c ∧ c ≠ '\\') (by decide +kernel) hex

/-- All characters of `Json.Escapes` are `Inert`. -/
theorem inert_of_escapes {units : List Nat} {letters : List Char} (h : Json.Escapes units letters) :
    ∀ c ∈ letters, Inert c :=
  h.forall_mem (by decide) (by decide) fun _ hex ↦ (inert_of_isHexDigit hex).1

/-- Digits in front of a `guarded` run stand in front of the run. -/
theorem exists_of_guarded_digits {digits cs more : List Char} (hex : ∀ d ∈ digits, Number.isHexDigit d)
    (row : guarded cs ++ ['"'] = digits ++ more) : ∃ rest, cs = digits ++ rest ∧ more = guarded rest ++ ['"'] := by
  induction digits generalizing cs with
  | nil => exact ⟨cs, rfl, row.symm⟩
  | cons d digits ih =>
    obtain ⟨first, others⟩ := List.forall_mem_cons.1 hex
    obtain ⟨inert, notBackslash⟩ := inert_of_isHexDigit first
    rcases guarded_cases row with ⟨-, quote, -⟩ | ⟨_, -, backslash, -⟩ | ⟨-, cs, rfl, behind⟩
    · exact absurd quote inert.notQuote
    · exact absurd backslash notBackslash
    · obtain ⟨rest, rfl, more⟩ := ih others behind.symm
      exact ⟨rest, rfl, more⟩

/-- Escapes in front of a `guarded` run stand in front of the run. -/
theorem exists_of_guarded_escapes {units : List Nat} {letters cs more : List Char} (h : Json.Escapes units letters)
    (row : guarded cs ++ ['"'] = letters ++ more) : ∃ rest, cs = letters ++ rest ∧ more = guarded rest ++ ['"'] := by
  induction h generalizing cs with
  | nil => exact ⟨cs, rfl, row.symm⟩
  | @cons n units digits letters four _ ih =>
    have front : guarded cs ++ ['"'] = '\\' :: 'u' :: (digits ++ (letters ++ more)) := by
      rw [row]
      simp
    rcases guarded_cases front with ⟨-, quote, -⟩ | ⟨_, -, -, letter⟩ | ⟨-, cs, rfl, second⟩
    · cases quote
    · cases letter
    rcases guarded_cases second.symm with ⟨-, quote, -⟩ | ⟨_, -, backslash, -⟩ | ⟨-, cs, rfl, third⟩
    · cases quote
    · cases backslash
    obtain ⟨cs, rfl, others⟩ := exists_of_guarded_digits four.hex third.symm
    obtain ⟨rest, rfl, behind⟩ := ih others.symm
    exact ⟨rest, by simp, behind⟩

/-! ## Resolving -/

variable {cs ds : List Char}

/-- A text that `Resolves` is, `guarded`, what `Json.Quoted` reads between quotes. -/
theorem Resolves.quoted (h : Resolves cs ds) (visible : ∀ c ∈ cs, Json.IsVisible c) :
    Json.Quoted ds (guarded cs ++ ['"']) := by
  induction h with
  | nil => exact .close
  | @char c cs ds plain others ih =>
    obtain ⟨first, rest⟩ := List.forall_mem_cons.1 visible
    by_cases quote : c = '"'
    · subst quote
      rw [guarded_quote]
      have allowed : ∀ d ∈ ['"'], Json.IsEscapeChar d := by simp [Json.IsEscapeChar, Json.escapeLetters]
      have guard : Json.Quoted ('"' :: ds) ('\\' :: ['"'] ++ (guarded cs ++ ['"'])) :=
        .escape allowed (fun _ ↦ rfl) (ih rest)
      exact guard
    · rw [guarded_cons quote]
      exact .char first quote plain (ih rest)
  | @escape c letters cs ds named others ih =>
    obtain ⟨rest, rfl, reads⟩ := named.reads
    rw [guarded_append fun mem ↦ (inert_of_escapes named '"' mem).notQuote rfl, List.append_assoc]
    have later := ih fun c mem ↦ visible c (List.mem_append_right _ mem)
    exact .escape (List.forall_mem_cons.1 named.isEscapeChar).2 reads later

/-- A text of `OnlyUnits` that is read between quotes, `guarded`, `Resolves` to what is read. -/
theorem resolves_of_quoted {body token rest : List Char} (h : Json.Quoted body token)
    (row : guarded cs ++ ['"'] = token ++ rest) (units : OnlyUnits cs) : Resolves cs body ∧ rest = [] := by
  induction h generalizing cs with
  | close =>
    rcases guarded_cases row with ⟨rfl, -, none⟩ | ⟨_, -, absurd, -⟩ | ⟨absurd, -⟩
    · exact ⟨.nil, none⟩
    · cases absurd
    · exact (absurd rfl).elim
  | @char c body token visible notQuote notBackslash _ ih =>
    rcases guarded_cases row with ⟨-, quote, -⟩ | ⟨_, -, backslash, -⟩ | ⟨-, cs, rfl, more⟩
    · exact absurd quote notQuote
    · exact absurd backslash notBackslash
    · obtain ⟨others, none⟩ := ih more.symm units.tail
      exact ⟨.char notBackslash others, none⟩
  | @escape c letters body token allowed reads _ ih =>
    rw [List.append_assoc, List.cons_append] at row
    rcases guarded_cases row with ⟨-, quote, -⟩ | ⟨cs, rfl, -, more⟩ | ⟨-, cs, rfl, more⟩
    · cases quote
    · have quote := reads (token ++ rest)
      rw [more] at quote
      obtain ⟨rfl, same⟩ := Prod.mk.inj (Except.ok.inj quote)
      obtain ⟨others, none⟩ := ih same units.tail
      exact ⟨.char (by decide) others, none⟩
    · obtain ⟨cs, rfl⟩ := List.head?_eq_some_iff.1 (units cs (List.suffix_refl _))
      have letter : (guarded ('u' :: cs) ++ ['"'] : List Char) = 'u' :: (guarded cs ++ ['"']) := by
        rw [guarded_cons (by decide)]
        rfl
      have read := reads (token ++ rest)
      rw [more, letter] at read
      obtain ⟨letters, row, named⟩ := Json.escape_eq_ok_iff.1 read
      have whole : guarded ('\\' :: 'u' :: cs) ++ ['"'] = '\\' :: 'u' :: letters ++ (token ++ rest) := by
        rw [guarded_cons (by decide), List.cons_append, letter, row]
        rfl
      obtain ⟨cs, same, behind⟩ := exists_of_guarded_escapes named whole
      rw [same] at units ⊢
      obtain ⟨others, none⟩ := ih behind.symm units.of_append
      exact ⟨.escape named others, none⟩

/-- `unescape` of a text that `Resolves` is what it resolves to. -/
theorem unescape_of_resolves {s : String} (h : Resolves s.toList ds) (visible : ∀ c ∈ s.toList, Json.IsVisible c) :
    unescape s = String.ofList ds := by
  have read := (h.quoted visible).stringRest []
  rw [List.append_nil, ← Json.text_quote] at read
  have whole : Json.whole Json.text ('"' :: Chars.replace ['"'] ['\\', '"'] s.toList ++ ['"']) =
      .ok (String.ofList ds) := by
    unfold Json.whole
    rw [List.cons_append]
    exact congrArg (· >>= _) read
  rw [unescape, whole]

/-- `unescape` leaves a text of `OnlyUnits` that does not resolve as it is. -/
theorem unescape_of_not_resolves {s : String} (none : ∀ ds, ¬ Resolves s.toList ds) (units : OnlyUnits s.toList) :
    unescape s = s := by
  unfold unescape
  split
  next resolved whole =>
    obtain ⟨⟨s', rest⟩, read, -⟩ := exists_of_bind whole
    rw [List.cons_append, Json.text_quote] at read
    obtain ⟨⟨body, behind⟩, string, -⟩ := exists_of_bind (show Json.stringBody _ _ >>= _ = _ from read)
    obtain ⟨token, row, quoted⟩ := Json.exists_quoted string
    exact absurd (resolves_of_quoted quoted row units).1 (none body)
  next => rfl

/-! ## Keywords -/

/-- The `Json.Escapes` of the units of characters resolve to these. -/
theorem resolves_of_escapes {letters ds : List Char} (h : Json.Escapes (ds.flatMap Chars.units) letters) :
    Resolves letters ds := by
  induction ds generalizing letters with
  | nil =>
    cases Json.escapes_nil_iff.1 h
    exact .nil
  | cons d ds ih =>
    obtain ⟨front, back, rfl, named, others⟩ := Json.Escapes.exists_append (List.flatMap_cons ▸ h)
    exact .escape named (ih others)

/-- `keywords` of the escapes of one keyword are this keyword. -/
theorem keywords_of_escapes {item text : String} (some : item ≠ "")
    (named : Json.Escapes (item.toList.flatMap Chars.units) text.toList) : keywords text = [item] := by
  have inert := inert_of_escapes named
  obtain ⟨c, mem⟩ := List.exists_mem_of_ne_nil _ (String.toList_eq_nil_iff.not.2 some)
  obtain ⟨rest, row⟩ := named.exists_cons fun none ↦ Chars.units_ne_nil c (List.flatMap_eq_nil_iff.1 none c mem)
  have whole : splitOn "," text = [text] := by
    have piece := Chars.splitAtChar_of_notMem fun mem ↦ (inert ',' mem).notComma rfl
    rw [splitOn_comma, piece, List.map_singleton, String.ofList_toList]
  have trimmed : trim text = text := by
    have ends : Chars.Trimmed text.toList := ⟨fun c mem ↦ (inert c (List.mem_of_head? mem)).notBlank,
      fun c mem ↦ (inert c (List.mem_of_getLast? mem)).notBlank⟩
    rw [trim, via, ends.trim_eq, String.ofList_toList]
  have nonempty : text.isEmpty = false := by
    rw [Bool.eq_false_iff, Ne, String.isEmpty_iff, ← String.toList_eq_nil_iff, row]
    exact List.cons_ne_nil _ _
  have marked : contains "\\u" text := by
    have front := Chars.firstSome?_of_some (Chars.after?_append ['\\', 'u'] rest)
    rw [contains, row]
    exact Option.isSome_of_eq_some front
  have resolved : unescape text = item := by
    rw [unescape_of_resolves (resolves_of_escapes named) fun c mem ↦ (inert c mem).visible, String.ofList_toList]
  simp [keywords, whole, trimmed, nonempty, keyword, marked, resolved]

/-- Every text can be written in `Json.Escapes`. -/
theorem exists_escapes (item : String) :
    ∃ text : String, Json.Escapes (item.toList.flatMap Chars.units) text.toList := by
  have small : ∀ n ∈ item.toList.flatMap Chars.units, n < 0x10000 := by
    intro n mem
    obtain ⟨c, -, unit⟩ := List.mem_flatMap.1 mem
    exact Chars.units_lt unit
  obtain ⟨letters, named⟩ := Json.exists_escapes small
  exact ⟨String.ofList letters, String.toList_ofList ▸ named⟩

/-- `keywords` of several keywords in escapes, with commas between them, are these keywords. -/
theorem keywords_joinWith_of_escapes {items texts : List String} (some : ∀ item ∈ items, item ≠ "")
    (written : List.Forall₂ (fun item text ↦ Json.Escapes (item.toList.flatMap Chars.units) text.toList)
      items texts) : keywords (joinWith "," texts) = items := by
  rw [keywords_joinWith]
  induction written with
  | nil => rfl
  | cons named _ ih =>
    obtain ⟨first, rest⟩ := List.forall_mem_cons.1 some
    rw [List.map_cons, List.flatten_cons, keywords_of_escapes first named, ih rest, List.singleton_append]

/-- `unescape` of a text of `OnlyUnits` is what it `Resolves` to, or the text itself if it does not resolve.
`keywords` gives back all keywords that are written in `Json.Escapes`, whatever characters they have. -/
theorem unescape_all_or_nothing_keywords_roundtrip :
    (∀ s : String, (∀ c ∈ s.toList, 0x20 ≤ c.toNat) → OnlyUnits s.toList →
      (∀ ds, Resolves s.toList ds → unescape s = String.ofList ds) ∧
      ((∀ ds, ¬ Resolves s.toList ds) → unescape s = s)) ∧
    (∀ item : String, ∃ text : String, Json.Escapes (item.toList.flatMap Chars.units) text.toList) ∧
    ∀ items texts : List String, (∀ item ∈ items, item ≠ "") →
      List.Forall₂ (fun item text ↦ Json.Escapes (item.toList.flatMap Chars.units) text.toList) items texts →
        keywords (joinWith "," texts) = items := by
  refine ⟨fun s visible units ↦ ⟨fun ds h ↦ unescape_of_resolves h visible, fun none ↦ ?_⟩, exists_escapes,
    fun _ _ ↦ keywords_joinWith_of_escapes⟩
  exact unescape_of_not_resolves none units

/-- Quotes stay between escapes, what is no escape leaves all as it is, and no comma in a keyword cuts it. -/
theorem unescape_keywords_clef : unescape "\"\\uD834\\udd1e\" " = "\"𝄞\" " ∧ unescape "\\uZZZZ" = "\\uZZZZ" ∧
    keywords "\\u002c\\u0022\\u0020\\u005C,\\uD834\\udd1e" = [",\" \\", "𝄞"] := by
  obtain ⟨resolving, -, written⟩ := unescape_all_or_nothing_keywords_roundtrip
  have clef : Json.Escapes (Chars.units '𝄞') "\\uD834\\udd1e".toList :=
    .cons (show Number.FourDigits 0xD834 "D834".toList by decide)
      (.cons (show Number.FourDigits 0xDD1E "dd1e".toList by decide) .nil)
  have marks : Json.Escapes (",\" \\".toList.flatMap Chars.units) "\\u002c\\u0022\\u0020\\u005C".toList :=
    .cons (show Number.FourDigits 0x2C "002c".toList by decide)
      (.cons (show Number.FourDigits 0x22 "0022".toList by decide)
        (.cons (show Number.FourDigits 0x20 "0020".toList by decide)
          (.cons (show Number.FourDigits 0x5C "005C".toList by decide) .nil)))
  have row : Resolves "\"\\uD834\\udd1e\" ".toList "\"𝄞\" ".toList :=
    .char (by decide) (.escape clef (.char (by decide) (.char (by decide) .nil)))
  have visible (s : String) (all : s.toList.all (0x20 ≤ ·.toNat)) : ∀ c ∈ s.toList, 0x20 ≤ c.toNat := by
    simpa using all
  have ill (ds : List Char) : ¬ Resolves "\\uZZZZ".toList ds := by
    intro h
    have read := (h.quoted (visible _ (by decide))).stringRest []
    have fault : (Json.stringRest (guarded "\\uZZZZ".toList ++ ['"'] ++ [])).toOption = none := by rfl
    rw [read] at fault
    cases fault
  refine ⟨(resolving _ (visible _ (by decide)) (by decide)).1 _ row,
    (resolving _ (visible _ (by decide)) (by decide)).2 ill, ?_⟩
  exact written _ ["\\u002c\\u0022\\u0020\\u005C", "\\uD834\\udd1e"] (by decide) (.cons marks (.cons clef .nil))

end Gazette.Text
