import Gazette.Proofs.Chars.Pieces
import Gazette.Site.Broadcasters
import Gazette.Site.Newspapers
import Gazette.Site.Online

/-!
# Addresses of articles

Six sites identify an article by one or two parts of its address. `Site.ArticleAt site u parts` says what such
an address looks like and which parts these are; all that it does not mention is left open, which is scheme,
authority and fragment everywhere, the query where the parts stand in the path, and the path where they stand in
the query. `Site.guid` puts the parts together with a dash between them (`ArticleAt.guid_eq`). None of them is
taken from a wrong place although the marks around them are searched for anywhere, and the dash between two of
them keeps them apart, for the second has none: `guid_eq_guid_iff`.
-/

namespace Gazette

open Chars

/-! ## Values of a query -/

namespace Url

variable {u : Url} {key value : List Char}

/-- `FirstValue u key value`: the query of `u` has `value` as its first value of `key`. The fields in front of it
have other keys. -/
inductive FirstValue (u : Url) (key value : List Char) : Prop
  /-- Fields are divided by `&`, and keys and values may be encoded. -/
  | of (before behind : List (List Char)) (field : List Char)
      (query : u.query = some (joinWith ['&'] (before ++ field :: behind)))
      (cut : ∀ piece ∈ before ++ field :: behind, '&' ∉ piece)
      (pair : pairOf field = (key, value)) (first : ∀ piece ∈ before, (pairOf piece).1 ≠ key)

/-- An ASCII character that does not begin an escape is one byte of `Percent.decode`, which stands for it. -/
theorem decodeLossy_decode_cons {c : Char} (small : c.toNat < 0x80) (plain : c ≠ '%') (cs : List Char) :
    Utf8.decodeLossy (Percent.decode (c :: cs)) = c :: Utf8.decodeLossy (Percent.decode cs) := by
  have byte : String.utf8EncodeChar c = [UInt8.ofNat c.toNat] := if_pos (Nat.le_of_lt_succ small)
  have low : UInt8.ofNat c.toNat < 0x80 := by
    rw [UInt8.lt_iff_toNat_lt, UInt8.toNat_ofNat', Nat.mod_eq_of_lt (by omega)]
    exact small
  have back : Char.ofNat (UInt8.ofNat c.toNat).toNat = c := by
    rw [UInt8.toNat_ofNat', Nat.mod_eq_of_lt (by omega), Char.ofNat_toNat]
  have split : Percent.decode (c :: cs) = UInt8.ofNat c.toNat :: Percent.decode cs := by
    rw [Percent.decode, byte, List.singleton_append]
    exact fun _ _ _ same _ ↦ plain same
  rw [split, Utf8.decodeLossy, Utf8.next.eq_def, if_pos low, Option.getD_some, back]

theorem toNat_lt_of_isAlphanum {c : Char} (letter : c.isAlphanum) : c.toNat < 0x80 := by
  have ranges : (decide (c.val ≥ 'A'.val ∧ c.val ≤ 'Z'.val) ||
      (decide (c.val ≥ 'a'.val) && decide (c.val ≤ 'z'.val)) ||
      (decide (c.val ≥ '0'.val) && decide (c.val ≤ '9'.val))) = true := letter
  simp [UInt32.le_iff_toNat_le] at ranges
  have number : c.toNat = c.val.toNat := rfl
  omega

/-- `unescapeField` keeps letters and digits. -/
theorem unescapeField_of_alphanumeric {cs : List Char} (all : ∀ c ∈ cs, c.isAlphanum) : unescapeField cs = cs := by
  induction cs with
  | nil => simp [unescapeField, Percent.decode, Utf8.decodeLossy]
  | cons c cs ih =>
    obtain ⟨letter, rest⟩ := List.forall_mem_cons.1 all
    have plus : c ≠ '+' := by
      rintro rfl
      exact absurd letter (by decide)
    have percent : c ≠ '%' := by
      rintro rfl
      exact absurd letter (by decide)
    rw [unescapeField, List.map_cons, if_neg plus,
      decodeLossy_decode_cons (toNat_lt_of_isAlphanum letter) percent]
    exact congrArg (c :: ·) (ih rest)

theorem pairOf_of_alphanumeric (key value : List Char) (letters : ∀ c ∈ key, c.isAlphanum)
    (letters' : ∀ c ∈ value, c.isAlphanum) : pairOf (key ++ '=' :: value) = (key, value) := by
  have front : (key ++ '=' :: value).takeWhile (· != '=') = key := by
    rw [List.takeWhile_append_of_pos, List.takeWhile_cons_of_neg (by decide), List.append_nil]
    intro c mem
    rw [bne_iff_ne]
    rintro rfl
    exact absurd (letters _ mem) (by decide)
  have back : (key ++ '=' :: value).drop (key.length + 1) = value := by simp
  rw [pairOf, front, back, unescapeField_of_alphanumeric letters, unescapeField_of_alphanumeric letters']

/-- `Url.queryValue` finds the `FirstValue` of a key. -/
theorem FirstValue.queryValue (h : FirstValue u key value) (named : key ≠ []) : u.queryValue key = value := by
  cases h with
  | of before behind field query cut pair first =>
    have full : field ≠ [] := by
      rintro rfl
      have empty : (pairOf []).1 = [] := unescapeField_of_alphanumeric (List.forall_mem_nil _)
      exact named ((congrArg Prod.fst pair).symm.trans empty)
    have others : ((before.filter fun piece ↦ !piece.isEmpty).map pairOf).find? (·.1 = key) = none := by
      rw [List.find?_eq_none, List.forall_mem_map]
      intro piece mem
      simpa using first piece (List.mem_filter.1 mem).1
    have pairs : u.queryPairs = (before.filter fun piece ↦ !piece.isEmpty).map pairOf ++
        (key, value) :: (behind.filter fun piece ↦ !piece.isEmpty).map pairOf := by
      rw [queryPairs, query, Option.getD_some, splitAtChar_joinWith (by simp) cut, List.filter_append,
        List.filter_cons_of_pos (by simpa using full), List.map_append, List.map_cons, pair]
    rw [Url.queryValue, pairs, List.find?_append, others, Option.none_or, List.find?_cons_of_pos (by simp),
      Option.map_some, Option.getD_some]

end Url

/-! ## Parts of a path -/

namespace Identifier

variable {u : Url}

/-- `Identifier.run?` takes a run that something else follows as a whole. -/
theorem run?_append {p : Char → Bool} {least most : Nat} {cs rest : List Char} (all : ∀ c ∈ cs, p c)
    (ends : ∀ c ∈ rest.head?, p c = false) (low : least ≤ cs.length) (high : cs.length ≤ most) :
    run? p least most (cs ++ rest) = some (cs, rest) := by
  have stop : rest.takeWhile p = [] ∧ rest.dropWhile p = rest := by
    cases rest with
    | nil => exact ⟨rfl, rfl⟩
    | cons c rest =>
      have other : ¬ p c := by simp [ends c rfl]
      exact ⟨List.takeWhile_cons_of_neg other, List.dropWhile_cons_of_neg other⟩
  have front : (cs ++ rest).takeWhile p = cs := by
    rw [List.takeWhile_append_of_pos all, stop.1, List.append_nil]
  have back : (cs ++ rest).dropWhile p = rest := by rw [List.dropWhile_append_of_pos all, stop.2]
  simp only [run?, front, back, low, high, decide_true, Bool.and_self, if_true]

theorem notMem_of_forall {p : Char → Bool} {cs : List Char} {c : Char} (all : ∀ c ∈ cs, p c) (other : p c = false) :
    c ∉ cs :=
  fun mem ↦ Bool.false_ne_true (other.symm.trans (all c mem))

/-- `Identifier.byNumberedPage` of `/news/category/number.aspx` is category and number. -/
theorem byNumberedPage_eq {category number : List Char}
    (path : u.path = "/news/".toList ++ (category ++ '/' :: (number ++ ".aspx".toList)))
    (words : ∀ c ∈ category, isWord c) (three : 3 ≤ category.length) (four : category.length ≤ 4)
    (number_ne : number ≠ []) (digits : ∀ c ∈ number, c.isDigit) :
    byNumberedPage u = String.ofList (category ++ '-' :: number) := by
  have here : numberedPage? ("news/".toList ++ (category ++ '/' :: (number ++ ".aspx".toList))) =
      some (category ++ '-' :: number) := by
    have first : run? isWord 3 4 (category ++ '/' :: (number ++ ".aspx".toList)) =
        some (category, '/' :: (number ++ ".aspx".toList)) :=
      run?_append words (by rintro _ ⟨⟩; rfl) three four
    have second : run? Char.isDigit 1 (number ++ ".aspx".toList).length (number ++ ".aspx".toList) =
        some (number, ".aspx".toList) :=
      run?_append digits (by rintro _ ⟨⟩; rfl) (List.length_pos_iff.2 number_ne) (by simp)
    have ending : after? ".aspx".toList ".aspx".toList = some [] := by decide
    simp only [numberedPage?, after?_append, first, after?_cons, second, ending, Option.bind_eq_bind, Option.bind_some,
      Option.pure_def]
  have found : firstSome? numberedPage? u.path = some (category ++ '-' :: number) := by
    have split : u.path = '/' :: ("news/".toList ++ (category ++ '/' :: (number ++ ".aspx".toList))) := path
    rw [split, firstSome?_of_none rfl, firstSome?_of_some here]
  rw [byNumberedPage, found, Option.getD_some]

/-- `Identifier.byStoryNumbers` of `/area/topic/first/second` is the two numbers. -/
theorem byStoryNumbers_eq {area topic first second : List Char}
    (path : u.path = '/' :: (area ++ '/' :: (topic ++ '/' :: (first ++ '/' :: second))))
    (area_ne : area ≠ []) (small : ∀ c ∈ area, isSmall c) (topic_ne : topic ≠ []) (small' : ∀ c ∈ topic, isSmall c)
    (digits : ∀ c ∈ first, c.isDigit) (four : 4 ≤ first.length) (seven : first.length ≤ 7)
    (digits' : ∀ c ∈ second, c.isDigit) (four' : 4 ≤ second.length) (eight : second.length ≤ 8) :
    byStoryNumbers u = String.ofList (first ++ '-' :: second) := by
  have here : storyNumbers? (area ++ '/' :: (topic ++ '/' :: (first ++ '/' :: second))) =
      some (first ++ '-' :: second) := by
    have word {word rest : List Char} (full : word ≠ []) (small : ∀ c ∈ word, isSmall c) :
        run? isSmall 1 (word ++ '/' :: rest).length (word ++ '/' :: rest) = some (word, '/' :: rest) :=
      run?_append small (by rintro _ ⟨⟩; rfl) (List.length_pos_iff.2 full) (by simp)
    have front : run? Char.isDigit 4 7 (first ++ '/' :: second) = some (first, '/' :: second) :=
      run?_append digits (by rintro _ ⟨⟩; rfl) four seven
    have back : run? Char.isDigit 4 second.length (second ++ []) = some (second, []) :=
      run?_append digits' (by rintro _ ⟨⟩) four' (Nat.le_refl _)
    rw [List.append_nil] at back
    simp only [storyNumbers?, word area_ne small, word topic_ne small', after?_cons, front, back, Option.bind_eq_bind,
      Option.bind_some, Option.pure_def, List.take_of_length_le eight]
  have found : firstSome? storyNumbers? u.path = some (first ++ '-' :: second) := by
    rw [path, firstSome?_of_none rfl, firstSome?_of_some here]
  rw [byStoryNumbers, found, Option.getD_some]

/-- `Identifier.byDatedPage` of `/area/day/number.htm` is day and number. -/
theorem byDatedPage_eq {area day number : List Char}
    (path : u.path = '/' :: (area ++ '/' :: (day ++ '/' :: (number ++ ".htm".toList))))
    (segment : '/' ∉ area) (digits : ∀ c ∈ day, c.isDigit) (digits' : ∀ c ∈ number, c.isDigit) :
    byDatedPage u = String.ofList (day ++ '-' :: number) := by
  have joined : '/' :: (area ++ '/' :: (day ++ '/' :: number)) = joinWith ['/'] [[], area, day, number] := by
    simp [joinWith]
  have stem : dropTail ".htm".toList u.path = joinWith ['/'] [[], area, day, number] := by
    have front : u.path = ('/' :: (area ++ '/' :: (day ++ '/' :: number))) ++ ".htm".toList := by
      simp only [path, List.append_assoc, List.cons_append]
    rw [front, dropTail_append, joined]
  have slashless : ∀ piece ∈ [[], area, day, number], '/' ∉ piece := by
    have days : '/' ∉ day := notMem_of_forall digits rfl
    have numbers : '/' ∉ number := notMem_of_forall digits' rfl
    simp [segment, days, numbers]
  rw [byDatedPage, stem, splitAtChar_joinWith (List.cons_ne_nil _ _) slashless]
  simp [joinWith]

/-- `Identifier.byCategoryAndNumber` of `/category/number` is category and number. -/
theorem byCategoryAndNumber_eq {category number : List Char} (path : u.path = '/' :: (category ++ '/' :: number))
    (segment : '/' ∉ category) : byCategoryAndNumber u = String.ofList (category ++ '-' :: number) := by
  have lead : dropLead ['/'] u.path = category ++ '/' :: number := by
    rw [path]
    exact dropLead_append ['/'] _
  rw [byCategoryAndNumber, lead, replaceFirst, cut?_append_cons segment]
  simp

end Identifier

/-! ## Articles -/

namespace Site

variable {site : Site} {u u' : Url} {parts parts' : List (List Char)}

/-- `ArticleAt site u parts`: the address `u` is that of an article of `site`, and `parts` are the parts of it
that identify the article. -/
inductive ArticleAt : Site → Url → List (List Char) → Prop
  /-- The category of three or four letters, digits or underscores, and the number in front of the ending. -/
  | newsAgency {u : Url} {category number : List Char}
      (path : u.path = "/news/".toList ++ (category ++ '/' :: (number ++ ".aspx".toList)))
      (words : ∀ c ∈ category, Identifier.isWord c) (length : category.length = 3 ∨ category.length = 4)
      (number_ne : number ≠ []) (digits : ∀ c ∈ number, c.isDigit) : ArticleAt .newsAgency u [category, number]
  /-- The day and the number behind a segment of any kind. -/
  | ettoday {u : Url} {area day number : List Char}
      (path : u.path = '/' :: (area ++ '/' :: (day ++ '/' :: (number ++ ".htm".toList))))
      (segment : '/' ∉ area) (digits : ∀ c ∈ day, c.isDigit) (digits' : ∀ c ∈ number, c.isDigit) :
      ArticleAt .ettoday u [day, number]
  /-- The numbers of topic and story behind two words in small letters. -/
  | unitedDaily {u : Url} {area kind topic story : List Char}
      (path : u.path = '/' :: (area ++ '/' :: (kind ++ '/' :: (topic ++ '/' :: story))))
      (area_ne : area ≠ []) (small : ∀ c ∈ area, Identifier.isSmall c)
      (kind_ne : kind ≠ []) (small' : ∀ c ∈ kind, Identifier.isSmall c)
      (digits : ∀ c ∈ topic, c.isDigit) (length : 4 ≤ topic.length ∧ topic.length ≤ 7)
      (digits' : ∀ c ∈ story, c.isDigit) (length' : 4 ≤ story.length ∧ story.length ≤ 8) :
      ArticleAt .unitedDaily u [topic, story]
  /-- The category, which is a segment of any kind, and the number. -/
  | tvbs {u : Url} {category number : List Char} (path : u.path = '/' :: (category ++ '/' :: number))
      (segment : '/' ∉ category) (digits : ∀ c ∈ number, c.isDigit) : ArticleAt .tvbs u [category, number]
  /-- The first type and the first serial number in the query, in digits of any script. -/
  | upMedia {u : Url} {kind number : List Char} (first : u.FirstValue "Type".toList kind)
      (first' : u.FirstValue "SerialNo".toList number) (digits : ∀ c ∈ kind, Unicode.isDigit c)
      (digits' : ∀ c ∈ number, Unicode.isDigit c) : ArticleAt .upMedia u [kind, number]
  /-- The first number of a piece of news in the query, in digits of any script. -/
  | setn {u : Url} {number : List Char} (first : u.FirstValue "NewsID".toList number)
      (digits : ∀ c ∈ number, Unicode.isDigit c) : ArticleAt .setn u [number]

/-- `Site.guid` of the address of an article is its parts with a dash between them. -/
theorem ArticleAt.guid_eq (h : ArticleAt site u parts) : site.guid u = String.ofList (joinWith ['-'] parts) := by
  cases h with
  | newsAgency path words length number_ne digits =>
    rw [joinWith_pair]
    exact Identifier.byNumberedPage_eq path words (by omega) (by omega) number_ne digits
  | ettoday path segment digits digits' =>
    rw [joinWith_pair]
    exact Identifier.byDatedPage_eq path segment digits digits'
  | unitedDaily path area_ne small kind_ne small' digits length digits' length' =>
    rw [joinWith_pair]
    exact Identifier.byStoryNumbers_eq path area_ne small kind_ne small' digits length.1 length.2 digits' length'.1
      length'.2
  | tvbs path segment digits =>
    rw [joinWith_pair]
    exact Identifier.byCategoryAndNumber_eq path segment
  | upMedia first first' digits digits' =>
    have values : Site.upMedia.guid u =
        Identifier.byQueryValue "Type" u ++ "-" ++ Identifier.byQueryValue "SerialNo" u := rfl
    rw [joinWith_pair, values, Identifier.byQueryValue, Identifier.byQueryValue, first.queryValue (by decide),
      first'.queryValue (by decide)]
    exact String.toList_injective (by simp)
  | setn first digits => exact congrArg String.ofList (first.queryValue (by decide))

/-- One part identifies an article of SETN, and two parts one of another site; the second has no dash. -/
theorem ArticleAt.parts_cases (h : ArticleAt site u parts) :
    (site.name = "setn" ∧ ∃ number, parts = [number]) ∨
      (site.name ≠ "setn" ∧ ∃ first second, parts = [first, second] ∧ '-' ∉ second) := by
  cases h with
  | newsAgency _ _ _ _ digits => exact .inr ⟨by decide, _, _, rfl, Identifier.notMem_of_forall digits rfl⟩
  | ettoday _ _ _ digits' => exact .inr ⟨by decide, _, _, rfl, Identifier.notMem_of_forall digits' rfl⟩
  | unitedDaily _ _ _ _ _ _ _ digits' => exact .inr ⟨by decide, _, _, rfl, Identifier.notMem_of_forall digits' rfl⟩
  | tvbs _ _ digits => exact .inr ⟨by decide, _, _, rfl, Identifier.notMem_of_forall digits rfl⟩
  | upMedia _ _ _ digits' => exact .inr ⟨by decide, _, _, rfl, Identifier.notMem_of_forall digits' rfl⟩
  | setn => exact .inl ⟨rfl, _, rfl⟩

/-- `Site.guid` of two addresses of articles of a site is the same exactly if their parts agree. -/
theorem guid_eq_guid_iff (h : ArticleAt site u parts) (h' : ArticleAt site u' parts') :
    site.guid u = site.guid u' ↔ parts = parts' := by
  rw [h.guid_eq, h'.guid_eq, String.ofList_inj]
  constructor
  · intro same
    rcases h.parts_cases with ⟨setn, number, rfl⟩ | ⟨other, first, second, rfl, free⟩
    · rcases h'.parts_cases with ⟨-, number', rfl⟩ | ⟨other, -⟩
      · exact congrArg ([·]) same
      · exact absurd setn other
    · rcases h'.parts_cases with ⟨setn, -⟩ | ⟨-, first', second', rfl, free'⟩
      · exact absurd setn other
      · rw [joinWith_pair, joinWith_pair] at same
        obtain ⟨rfl, rfl⟩ := append_cons_inj_of_notMem_right free free' same
        rfl
  · rintro rfl
    rfl

/-- The address of an article of Up Media. -/
def serialPage : Url where
  scheme := "https".toList
  authority := some ⟨[], none, some (.name "www.upmedia.mg".toList), none⟩
  path := "/news_info.php".toList
  query := some "Type=3&SerialNo=183497".toList
  fragment := none

/-- The address of the article of `serialPage` with an encoded key, among other fields, and elsewhere. -/
def sharedPage : Url where
  scheme := "http".toList
  authority := some ⟨[], none, some (.name "upmedia.mg".toList), some 8080⟩
  path := "/m".toList
  query := some "SerialNo=183497&&type=5&%54ype=3&Type=9".toList
  fragment := some "top".toList

/-- `serialPage` and `sharedPage` have the same parts, and with them one identifier. -/
theorem guid_eq_guid_iff_sharedPage :
    ArticleAt .upMedia serialPage ["3".toList, "183497".toList] ∧
      ArticleAt .upMedia sharedPage ["3".toList, "183497".toList] ∧
      Site.upMedia.guid serialPage = Site.upMedia.guid sharedPage := by
  have page : ArticleAt .upMedia serialPage ["3".toList, "183497".toList] := by
    have kind : Url.pairOf "Type=3".toList = ("Type".toList, "3".toList) :=
      Url.pairOf_of_alphanumeric "Type".toList "3".toList (List.all_eq_true.1 (by decide))
        (List.all_eq_true.1 (by decide))
    have number : Url.pairOf "SerialNo=183497".toList = ("SerialNo".toList, "183497".toList) :=
      Url.pairOf_of_alphanumeric "SerialNo".toList "183497".toList (List.all_eq_true.1 (by decide))
        (List.all_eq_true.1 (by decide))
    refine .upMedia (.of [] ["SerialNo=183497".toList] _ rfl (by decide) kind (by decide))
      (.of ["Type=3".toList] [] _ rfl (by decide) number ?_) (List.all_eq_true.1 (by decide))
      (List.all_eq_true.1 (by decide))
    rw [List.forall_mem_singleton, kind]
    decide
  have page' : ArticleAt .upMedia sharedPage ["3".toList, "183497".toList] :=
    .upMedia
      (.of ["SerialNo=183497".toList, [], "type=5".toList] ["Type=9".toList] "%54ype=3".toList rfl (by decide)
        (by decide +kernel) (by decide +kernel))
      (.of [] [[], "type=5".toList, "%54ype=3".toList, "Type=9".toList] "SerialNo=183497".toList rfl (by decide)
        (by decide +kernel) (by decide))
      (List.all_eq_true.1 (by decide)) (List.all_eq_true.1 (by decide))
  exact ⟨page, page', (guid_eq_guid_iff page page').2 rfl⟩

end Site

end Gazette
