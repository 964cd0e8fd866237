import Gazette.Proofs.LinkedData.Acceptance

/-!
# What linked data hold under their keys

`LinkedData.put` of a member changes what linked data hold under its key (`held?`), and nothing else
(`held?_put_of_ne`). So what they hold under a key in the end comes from the last member with this key, and is
what it was in the beginning if there is none (`held?_foldlM`).
-/

namespace Gazette.LinkedData

open Json

/-- What stands under a key of linked data. -/
inductive Entry
  /-- A text. -/
  | text (s : String)
  /-- Things. -/
  | things (list : List Thing)
  /-- Keywords. -/
  | words (list : List String)

/-- What the linked data `d` hold under a key, if it is one of theirs. -/
def held? (d : LinkedData) (key : String) : Option Entry :=
  if key = "@type" then some (.text d.kind)
  else if key = "headline" then some (.text d.headline)
  else if key = "description" then some (.text d.description)
  else if key = "url" then some (.text d.url)
  else if key = "articleSection" then some (.text d.articleSection)
  else if key = "author" then some (.things d.author)
  else if key = "about" then some (.things d.about)
  else if key = "keywords" then some (.words d.keywords)
  else if key = "datePublished" then some (.text d.datePublished)
  else if key = "dateModified" then some (.text d.dateModified)
  else none

variable {d d' : LinkedData} {key other : String} {v : Json} {members before behind : List (String × Json)}

/-- `put` of a member under a key that is not among `keys` changes nothing. -/
theorem put_of_notMem (d : LinkedData) (v : Json) (unknown : key ∉ keys) : d.put key v = .ok d := by
  simp only [keys, List.mem_cons, List.not_mem_nil, or_false, not_or] at unknown
  simp [put, unknown, pure, Except.pure]

/-- `put` of a member changes nothing under other keys. -/
theorem held?_put_of_ne (ne : other ≠ key) (put : d.put key v = .ok d') : d'.held? other = d.held? other := by
  by_cases known : key ∈ keys
  · simp only [keys, List.mem_cons, List.not_mem_nil, or_false] at known
    rcases known with rfl | rfl | rfl | rfl | rfl | rfl | rfl | rfl | rfl | rfl
    all_goals
      simp only [LinkedData.put, String.reduceEq, reduceIte] at put
      obtain ⟨x, -, made⟩ := exists_of_bind put
      cases made
      simp only [held?, ne, reduceIte]
  · rw [put_of_notMem d v known] at put
    cases put
    rfl

/-- `put` of `null` changes nothing exactly if there is nothing under the key yet. -/
theorem put_null_eq_iff (d : LinkedData) (key : String) :
    d.put key .null = .ok d ↔ d.held? key = ({} : LinkedData).held? key := by
  by_cases known : key ∈ keys
  · simp only [keys, List.mem_cons, List.not_mem_nil, or_false] at known
    obtain ⟨kind, headline, description, url, articleSection, author, about, keywords, datePublished, dateModified⟩ := d
    have text : accepted (oneString? .null) = .ok "" := rfl
    have things : accepted (oneOrMany thing? .null) = .ok [] := rfl
    have words : keywordsOf .null = .ok [] := rfl
    rcases known with rfl | rfl | rfl | rfl | rfl | rfl | rfl | rfl | rfl | rfl
    all_goals
      simp [put, held?, text, things, words, bind, Except.bind, pure, Except.pure, eq_comm]
  · rw [put_of_notMem d _ known]
    simp only [keys, List.mem_cons, List.not_mem_nil, or_false, not_or] at known
    simp [held?, known]

/-- The keys under which things are held. -/
def thingsKeys : List String := ["author", "about"]

/-- `put` under one of `thingsKeys` holds what `oneOrMany thing?` makes of the value. -/
theorem held?_put_things (named : key ∈ thingsKeys) (put : d.put key v = .ok d') :
    ∃ list, oneOrMany thing? v = some list ∧ d'.held? key = some (.things list) := by
  simp only [thingsKeys, List.mem_cons, List.not_mem_nil, or_false] at named
  rcases named with rfl | rfl
  all_goals
    simp only [LinkedData.put, String.reduceEq, reduceIte] at put
    obtain ⟨list, taken, made⟩ := exists_of_bind put
    cases made
    cases things : oneOrMany thing? v with
    | none => rw [things] at taken; cases taken
    | some list =>
      rw [things] at taken
      cases taken
      exact ⟨list, rfl, by simp [held?]⟩

/-- `ofJson` puts members in front before those behind. -/
theorem ofJson_append (before behind : List (String × Json)) : ofJson (.object (before ++ behind)) =
    ofJson (.object before) >>= fun d ↦ behind.foldlM (fun d m ↦ LinkedData.put d m.1 m.2) d :=
  List.foldlM_append

/-- Members change nothing under keys that they do not have. -/
theorem held?_foldlM (lacks : key ∉ members.map Prod.fst)
    (put : members.foldlM (fun d m ↦ LinkedData.put d m.1 m.2) d = .ok d') : d'.held? key = d.held? key := by
  induction members generalizing d with
  | nil =>
    cases put
    rfl
  | cons m members ih =>
    rw [List.map_cons, List.mem_cons, not_or] at lacks
    obtain ⟨d₁, first, others⟩ := exists_of_bind put
    rw [ih lacks.2 others, held?_put_of_ne lacks.1 first]

end Gazette.LinkedData
