import Gazette.Article.Serial
import Gazette.Proofs.Json.Records
import Gazette.Proofs.Time.Exact

/-!
# Records as JSON and back

A record that `Article.toJson` writes is read back by `Article.ofJsonText` as it was, on one line
(`Json.compact`) or over several (`Json.pretty`). What is left out because it is empty comes back through the
defaults of `ofDraft`; the address has to be one that its text names, and the date one that a timestamp names.
The draft that the reader fills grows member by member, from `headed` to `toDraft`, and `Loads` says what each
group of members does to it.
-/

namespace Gazette.Article

open Json

/-! ## Drafts -/

section Drafts

variable (a : Article)

/-- The draft of `a` behind the members in front, which are always there. -/
def headed : Draft where
  title := some a.title
  link := some a.link
  description := some a.description
  language := some a.language

/-- The draft `headed` behind the authors, if there are any. -/
def signed : Draft := { a.headed with authors := if a.authors.isEmpty then none else some a.authors }

/-- The draft `signed` behind the category, if there is one. -/
def classified : Draft := { a.signed with category := if a.category.isEmpty then none else some a.category }

/-- The draft `classified` behind the identifier, if there is one. -/
def identified : Draft := { a.classified with guid := if a.guid.isEmpty then none else some a.guid }

/-- The draft `identified` behind the date, if there is one. -/
def dated : Draft := { a.identified with published := a.published.map some }

/-- The draft that is read of the whole record `a`. What is left out is not set. -/
def toDraft : Draft :=
  { a.dated with content := some a.content, tags := some a.tags, related := some a.related }

end Drafts

theorem getD_ite_isEmpty_list (l : List String) : (if l.isEmpty then none else some l).getD [] = l := by
  cases l <;> rfl

theorem getD_ite_isEmpty_string (s : String) : (if s.isEmpty then none else some s).getD "" = s := by
  split
  next empty => exact (String.isEmpty_iff.1 empty).symm
  next => rfl

/-- `ofDraft` makes `a` of its draft: what is left out is empty, and so are the defaults. -/
theorem ofDraft_toDraft (a : Article) : ofDraft a.toDraft = .ok a := by
  have date : (a.published.map some).join = a.published := by
    cases a.published <;> rfl
  simp only [ofDraft, toDraft, dated, identified, classified, signed, headed, required, bind, Except.bind, pure,
    Except.pure, Option.join_some, getD_ite_isEmpty_list, getD_ite_isEmpty_string, date]

/-! ## Values -/

/-- `Json.text` reads any spelling of a string as that string. -/
theorem readsAs_text_of_spells {s : String} {cs : List Char} (spelled : Spells (.string s) cs) :
    ReadsAs Json.text cs s := by
  cases spelled
  exact readsAs_text s

variable {a : Article}

/-- The reader of `link` reads the address back if `Url.parse` makes it of its text. -/
theorem readsAs_link (link : ∀ u, a.link = some u → Url.parse u.href = .ok u) {cs : List Char}
    (spelled : Spells (textOrNull (a.link.map Url.href)) cs) :
    ReadsAs (optional (stringAs "a string representing an URL" urlOf)) cs a.link := by
  cases named : a.link with
  | none =>
    rw [named] at spelled
    cases spelled
    exact readsAs_optional_null _
  | some u =>
    rw [named] at spelled
    cases spelled
    have parsed : urlOf u.href = .ok u := by
      rw [urlOf, link u named]
      rfl
    exact readsAs_optional_stringText (readsAs_stringAs parsed)

/-- The reader of `published` reads an instant back if `Instant.ofTimestamp?` gives it for some text. -/
theorem readsAs_published {t : Time.Instant} {s : String} (named : Time.Instant.ofTimestamp? s = some t)
    {cs : List Char} (spelled : Spells (.string (String.ofList t.toText)) cs) :
    ReadsAs (optional (stringAs "an RFC 3339 formatted date and time string" instantOf)) cs (some t) := by
  cases spelled
  have read : instantOf (String.ofList t.toText) = .ok t := by
    rw [instantOf, (Time.Timestamp.regular_of_ofTimestamp? named).ofLooseTimestamp_toText]
    rfl
  exact readsAs_optional_stringText (readsAs_stringAs read)

/-! ## Members -/

section Members

variable (a)

/-- The members in front load `headed`. -/
theorem loads_headed (link : ∀ u, a.link = some u → Url.parse u.href = .ok u) :
    form.Loads [("title", .string a.title), ("link", textOrNull (a.link.map Url.href)),
      ("description", .string a.description), ("language", .string a.language)] form.start a.headed :=
  .field rfl rfl (fun _ ↦ readsAs_text_of_spells) <|
  .field rfl rfl (fun _ ↦ readsAs_link link) <|
  .field rfl rfl (fun _ ↦ readsAs_text_of_spells) <|
  .field rfl rfl (fun _ ↦ readsAs_text_of_spells) <| .nil _

theorem loads_signed :
    form.Loads (if a.authors.isEmpty then [] else [("author", .strings a.authors)]) a.headed a.signed := by
  unfold signed
  split
  next => exact .nil a.headed
  next => exact .field rfl rfl (fun _ ↦ readsAs_list_text) (.nil _)

theorem loads_classified :
    form.Loads (if a.category.isEmpty then [] else [("category", .string a.category)]) a.signed
      a.classified := by
  unfold classified
  split
  next => exact .nil a.signed
  next => exact .field rfl rfl (fun _ ↦ readsAs_text_of_spells) (.nil _)

theorem loads_identified :
    form.Loads (if a.guid.isEmpty then [] else [("guid", .string a.guid)]) a.classified a.identified := by
  unfold identified
  split
  next => exact .nil a.classified
  next => exact .field rfl rfl (fun _ ↦ readsAs_text_of_spells) (.nil _)

theorem loads_dated (published : ∀ t, a.published = some t → ∃ s, Time.Instant.ofTimestamp? s = some t) :
    form.Loads
      (match a.published with
        | some t => [("pubDate", .string (String.ofList t.toText))]
        | none => []) a.identified a.dated := by
  unfold dated
  cases date : a.published with
  | none => exact .nil a.identified
  | some t =>
    obtain ⟨s, named⟩ := published t date
    exact .field rfl rfl (fun _ ↦ readsAs_published named) (.nil _)

/-- The members behind, which are always there, load `toDraft`. -/
theorem loads_toDraft :
    form.Loads [("content", .strings a.content), ("tag", .strings a.tags), ("related_guid", .strings a.related)]
      a.dated a.toDraft :=
  .field rfl rfl (fun _ ↦ readsAs_list_text) <|
  .field rfl rfl (fun _ ↦ readsAs_list_text) <|
  .field rfl rfl (fun _ ↦ readsAs_list_text) <| .nil _

end Members

/-! ## Records -/

/-- `ofJsonText` reads a record back from any spelling of `toJson`, with white space around it. -/
theorem ofJsonText_of_spells (link : ∀ u, a.link = some u → Url.parse u.href = .ok u)
    (published : ∀ t, a.published = some t → ∃ s, Time.Instant.ofTimestamp? s = some t)
    {cs before behind : List Char} (spelled : Spells a.toJson cs) (space : IsGap before)
    (space' : IsGap behind) : ofJsonText (String.ofList (before ++ cs ++ behind)) = .ok a := by
  have front := (((a.loads_headed link).append a.loads_signed).append a.loads_classified).append a.loads_identified
  have all := (front.append (a.loads_dated published)).append a.loads_toDraft
  exact all.parse (ofDraft_toDraft a) spelled space space'

/-- `ofJsonText` reads a record back from `toJson`, `compact` or `pretty`, if its address is one that its text
names and its date one that a timestamp names. -/
theorem ofJsonText_toJson (link : ∀ u, a.link = some u → Url.parse u.href = .ok u)
    (published : ∀ t, a.published = some t → ∃ s, Time.Instant.ofTimestamp? s = some t) :
    ofJsonText a.toJson.compact = .ok a ∧ ofJsonText a.toJson.pretty = .ok a := by
  have read {cs : List Char} (spelled : Spells a.toJson cs) : ofJsonText (String.ofList cs) = .ok a := by
    have read := ofJsonText_of_spells link published spelled isGap_nil isGap_nil
    rwa [List.nil_append, List.append_nil] at read
  exact ⟨read (spells_toChars a.toJson), read (spells_toLines 0 a.toJson)⟩

/-- A record from a leap second that its offset puts into the year 10000. -/
def leapSecond : Article where
  title := "\"\\\x01\n"
  link := some
    { scheme := "https".toList
      authority := some ⟨[], none, some (.ipv6 [0, 0, 0, 0, 0, 0, 0, 1]), none⟩
      path := "/b".toList
      query := some "c".toList
      fragment := none }
  authors := ["", "台"]
  published := some ⟨2932897, 3599, 1125000000⟩
  content := [""]

/-- The record `leapSecond` is written without category and identifier, and read back. -/
theorem ofJsonText_toJson_leapSecond :
    Time.Instant.ofTimestamp? "9999-12-31T22:59:60.125-02:00" = leapSecond.published ∧
      ofJsonText leapSecond.toJson.compact = .ok leapSecond ∧
      ofJsonText leapSecond.toJson.pretty = .ok leapSecond := by
  have named : Time.Instant.ofTimestamp? "9999-12-31T22:59:60.125-02:00" = leapSecond.published := rfl
  refine ⟨named, ofJsonText_toJson ?_ ?_⟩
  · intro u same
    cases same
    rfl
  · intro t same
    exact ⟨_, named.trans same⟩

end Gazette.Article
