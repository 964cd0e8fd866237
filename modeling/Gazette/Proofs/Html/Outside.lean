import Gazette.Html.Edge

/-!
# Text outside of some elements

Which text is left out is a matter of the tree: that below an element which is skipped (`Spot.textOutside`). The
walk around the tree (`Gathering.step`, one `Edge` after the other) decides it by a number alone. This number is
the count of the elements that one is in, from the outermost skipped one on (`depthIn`), in front of each step
and behind it (`Tracks`); so the walk comes back from a subtree with the number with which it went in, and
gathers a text exactly where the number is zero. `Spot.textWithout_eq` is what follows for `Spot.textWithout`.
-/

namespace Gazette.Html

namespace Spot

/-! ## Above and below -/

/-- The number of elements around a spot. -/
def level (s : Spot) : Nat := s.ancestors.length

/-- What stands around a spot has a lower `level`. -/
theorem level_lt_of_mem_ancestors {s o : Spot} (mem : o ∈ s.ancestors) : o.level < s.level := by
  induction s using Spot.ancestors.induct with
  | case1 => cases mem
  | case2 n before after p ih =>
    have above : level (mk n before after (some p)) = p.level + 1 := rfl
    rcases List.mem_cons.1 mem with rfl | farther
    · omega
    · have := ih farther
      omega

/-- The elements around a spot that stand below `root`, the innermost first. -/
def ancestorsBelow (root s : Spot) : List Spot := s.ancestors.filter fun o ↦ root.level < o.level

/-- A spot below `root` and those around it that are below `root`, too, the innermost first. -/
def lineBelow (root s : Spot) : List Spot := (s :: s.ancestors).filter fun o ↦ root.level < o.level

/-- Around `root` nothing is below it. -/
theorem ancestorsBelow_self (root : Spot) : root.ancestorsBelow root = [] := by
  rw [ancestorsBelow, List.filter_eq_nil_iff]
  intro o mem
  have := level_lt_of_mem_ancestors mem
  simp only [decide_eq_true_eq]
  omega

/-- Nor is `root` below itself. -/
theorem lineBelow_self (root : Spot) : root.lineBelow root = [] := by
  have around := ancestorsBelow_self root
  rw [ancestorsBelow] at around
  rw [lineBelow, List.filter_cons_of_neg (by simp), around]

/-- A node in an element that is `root` or below it is below `root`. -/
theorem lineBelow_child {root s : Spot} (low : root.level ≤ s.level) (n : Node) (before after : List Node) :
    root.lineBelow (mk n before after (some s)) = mk n before after (some s) :: root.lineBelow s := by
  have lower : root.level < level (mk n before after (some s)) := Nat.lt_succ_of_le low
  rw [lineBelow, List.filter_cons_of_pos (by simpa using lower)]
  rfl

/-! ## Texts -/

mutual

/-- The spots of the texts in a node, in the order in which they stand. -/
def textsWithin (before after : List Node) (parent : Option Spot) : Node → List Spot
  | .element serial name attributes children =>
    textsAmong (some (mk (.element serial name attributes children) before after parent)) [] children
  | .text t => [mk (.text t) before after parent]
  | .comment _ => []
  | .doctype _ => []

/-- The spots of the texts in a row of nodes, in the order in which they stand. -/
def textsAmong (parent : Option Spot) (before : List Node) : List Node → List Spot
  | [] => []
  | n :: rest => textsWithin before rest parent n ++ textsAmong parent (n :: before) rest

end

/-- The spots of the texts below a spot, in the order in which they stand. -/
def texts (s : Spot) : List Spot := textsAmong (some s) [] s.children

mutual

/-- The `textsWithin` a node make its `Node.chars`. -/
theorem flatMap_textsWithin (before after : List Node) (parent : Option Spot) : (n : Node) →
    (textsWithin before after parent n).flatMap (·.node.chars) = n.chars
  | .element _ _ _ children => by
    rw [textsWithin, Node.chars]
    exact flatMap_textsAmong _ [] children
  | .text t => by simp [textsWithin, node, Node.chars]
  | .comment _ => rfl
  | .doctype _ => rfl

/-- The `textsAmong` a row of nodes make its `Node.charsAmong`. -/
theorem flatMap_textsAmong (parent : Option Spot) (before : List Node) : (nodes : List Node) →
    (textsAmong parent before nodes).flatMap (·.node.chars) = Node.charsAmong nodes
  | [] => rfl
  | n :: rest => by
    rw [textsAmong, List.flatMap_append, flatMap_textsWithin before rest parent n,
      flatMap_textsAmong parent (n :: before) rest, Node.charsAmong]

end

/-- The `texts` below an element make its `Node.chars`. -/
theorem flatMap_texts {s : Spot} (element : s.node.isElement) : s.texts.flatMap (·.node.chars) = s.node.chars := by
  rw [texts, flatMap_textsAmong, children]
  cases holds : s.node with
  | element serial name attributes children => rfl
  | text _ | comment _ | doctype _ => rw [holds] at element; cases element

mutual

/-- What stands around one of the `textsWithin` a node is `within` this node, or around it. -/
theorem mem_of_mem_textsWithin {before after : List Node} {s t o : Spot} : (n : Node) →
    t ∈ textsWithin before after (some s) n → o ∈ t.ancestors →
    o ∈ within before after (some s) n ∨ o ∈ s :: s.ancestors
  | .element serial name attributes children, mem, around => by
    rcases mem_of_mem_textsAmong children mem around with below | above
    · exact .inl (List.mem_cons_of_mem _ below)
    · rcases List.mem_cons.1 above with rfl | above
      · exact .inl List.mem_cons_self
      · exact .inr above
  | .text _, mem, around => by
    rcases List.mem_singleton.1 mem with rfl
    exact .inr around
  | .comment _, mem, _ => absurd mem List.not_mem_nil
  | .doctype _, mem, _ => absurd mem List.not_mem_nil

/-- What stands around one of the `textsAmong` a row of nodes is `among` this row, or around it. -/
theorem mem_of_mem_textsAmong {before : List Node} {s t o : Spot} : (nodes : List Node) →
    t ∈ textsAmong (some s) before nodes → o ∈ t.ancestors →
    o ∈ among (some s) before nodes ∨ o ∈ s :: s.ancestors
  | [], mem, _ => absurd mem List.not_mem_nil
  | n :: rest, mem, around => by
    rcases List.mem_append.1 mem with here | farther
    · exact (mem_of_mem_textsWithin n here around).imp_left (List.mem_append_left _)
    · exact (mem_of_mem_textsAmong rest farther around).imp_left (List.mem_append_right _)

end

/-- The elements below `root` that stand around one of its `texts` are its `descendants`. -/
theorem mem_descendants_of_mem_ancestorsBelow {root t o : Spot} (text : t ∈ root.texts)
    (mem : o ∈ root.ancestorsBelow t) : o ∈ root.descendants := by
  obtain ⟨around, lower⟩ := List.mem_filter.1 mem
  rcases mem_of_mem_textsAmong root.children text around with below | above
  · exact below
  · rw [decide_eq_true_eq] at lower
    rcases List.mem_cons.1 above with rfl | above
    · omega
    · have := level_lt_of_mem_ancestors above
      omega

/-! ## What is left out -/

variable (root : Spot) (skips : Spot → Bool)

/-- A text below `root` around which no element below `root` is skipped. -/
def isOutside (t : Spot) : Bool := !(root.ancestorsBelow t).any skips

/-- The texts below `root` that stand in no skipped element below it, in the order in which they stand. -/
def textOutside : List Char := (root.texts.filter (root.isOutside skips)).flatMap (·.node.chars)

/-- `textOutside` depends on `skips` only at the `descendants` of `root`. -/
theorem textOutside_congr {skips' : Spot → Bool} (same : ∀ o ∈ root.descendants, skips o = skips' o) :
    root.textOutside skips = root.textOutside skips' := by
  rw [textOutside, textOutside]
  refine congrArg (List.flatMap _) (List.filter_congr fun t text ↦ congrArg not (Bool.eq_iff_iff.2 ?_))
  simp only [List.any_eq_true]
  refine exists_congr fun o ↦ and_congr_right fun mem ↦ ?_
  rw [same o (mem_descendants_of_mem_ancestorsBelow text mem)]

end Spot

/-! ## The number kept on the walk -/

/-- How many elements one is in, counted from the outermost skipped one, where the innermost stands first. -/
def depthIn (skips : Spot → Bool) (around : List Spot) : Nat :=
  (around.reverse.dropWhile fun o ↦ !skips o).length

section Depth

variable (skips : Spot → Bool)

/-- A further element counts for `depthIn` inside a skipped one, and if it is skipped. -/
theorem depthIn_cons (o : Spot) (around : List Spot) : depthIn skips (o :: around) =
    if 0 < depthIn skips around then depthIn skips around + 1 else if skips o then 1 else 0 := by
  rw [depthIn, depthIn, List.reverse_cons, List.dropWhile_append]
  cases left : around.reverse.dropWhile fun o ↦ !skips o with
  | nil => cases skipped : skips o <;> simp [skipped]
  | cons p more => simp

/-- `depthIn` is zero where no element is skipped. -/
theorem depthIn_pos_iff (around : List Spot) : 0 < depthIn skips around ↔ around.any skips := by
  induction around with
  | nil => simp [depthIn]
  | cons o around ih =>
    rw [depthIn_cons, List.any_cons, Bool.or_eq_true, ← ih]
    split
    next some => simp [some]
    next none => cases skips o <;> simp [none]

end Depth

namespace Edge

variable (root : Spot)

/-- The elements below `root` that one is in before a step. -/
def front : Edge → List Spot
  | enter s => root.ancestorsBelow s
  | leave s => if s.node.isElement then root.lineBelow s else root.ancestorsBelow s

/-- The elements below `root` that one is in behind a step. -/
def back : Edge → List Spot
  | enter s => if s.node.isElement then root.lineBelow s else root.ancestorsBelow s
  | leave s => root.ancestorsBelow s

end Edge

section Walk

variable (root : Spot) (skips : Spot → Bool)

/-- On a walk from `g` on, `Gathering.depth` is `depthIn` of the elements that one is in, in front of each step
(`Edge.front`) and behind it (`Edge.back`). -/
def Tracks (g : Gathering) (edges : List Edge) : Prop :=
  ∀ walked e rest, edges = walked ++ e :: rest →
    (walked.foldl (Gathering.step skips) g).depth = depthIn skips (e.front root) ∧
      ((walked ++ [e]).foldl (Gathering.step skips) g).depth = depthIn skips (e.back root)

variable {root skips} {g : Gathering}

/-- A walk without steps `Tracks` the count. -/
theorem tracks_nil : Tracks root skips g [] := by
  intro walked e rest row
  cases walked <;> cases row

/-- A walk `Tracks` the count if its first step does, and then the rest. -/
theorem Tracks.cons {e : Edge} {edges : List Edge} (front : g.depth = depthIn skips (e.front root))
    (back : (g.step skips e).depth = depthIn skips (e.back root)) (h : Tracks root skips (g.step skips e) edges) :
    Tracks root skips g (e :: edges) := by
  intro walked e' rest row
  cases walked with
  | nil =>
    cases row
    exact ⟨front, back⟩
  | cons first walked =>
    cases row
    exact h walked e' rest rfl

/-- Two walks in a row `Tracks` the count if each of them does. -/
theorem Tracks.append {edges more : List Edge} (h : Tracks root skips g edges)
    (h' : Tracks root skips (edges.foldl (Gathering.step skips) g) more) : Tracks root skips g (edges ++ more) := by
  induction edges generalizing g with
  | nil => exact h'
  | cons e edges ih =>
    obtain ⟨front, back⟩ := h [] e edges rfl
    exact .cons front back (ih (fun walked e' rest row ↦ h (e :: walked) e' rest (congrArg (e :: ·) row)) h')

/-- What the walk has gathered behind some texts. -/
def Gathering.past (g : Gathering) (root : Spot) (skips : Spot → Bool) (texts : List Spot) : Gathering :=
  { g with text := g.text ++ (texts.filter (root.isOutside skips)).flatMap (·.node.chars) }

/-- `Gathering.past` no texts nothing is gathered. -/
theorem Gathering.past_nil : g.past root skips [] = g := by simp [Gathering.past]

/-- `Gathering.past` takes texts one after the other. -/
theorem Gathering.past_append (texts more : List Spot) :
    g.past root skips (texts ++ more) = (g.past root skips texts).past root skips more := by
  simp [Gathering.past]

/-! ### The steps -/

/-- Where the walk enters an element, `Gathering.depth` becomes `depthIn` with this element. -/
theorem step_enter_element {o : Spot} (element : o.node.isElement) {around : List Spot}
    (inside : g.depth = depthIn skips around) :
    g.step skips (.enter o) = { g with depth := depthIn skips (o :: around) } := by
  cases holds : o.node with
  | element serial name attributes children =>
    rw [depthIn_cons, ← inside]
    simp only [Gathering.step, holds, Node.isElement, Bool.true_and, if_true]
    split
    next => rfl
    next none =>
      have zero : g.depth = 0 := Nat.eq_zero_of_not_pos none
      split
      next => rfl
      next => simp [← zero]
  | text _ | comment _ | doctype _ => rw [holds] at element; cases element

/-- Where the walk leaves an element, `Gathering.depth` becomes `depthIn` without this element. -/
theorem step_leave_element {o : Spot} (element : o.node.isElement) {around : List Spot}
    (inside : g.depth = depthIn skips (o :: around)) :
    g.step skips (.leave o) = { g with depth := depthIn skips around } := by
  have less : depthIn skips around = g.depth - 1 := by
    rw [inside, depthIn_cons]
    split
    next => rfl
    next none => split <;> omega
  rw [Gathering.step, element, Bool.and_true, less]
  split
  next => rfl
  next none =>
    have same : g.depth = g.depth - 1 := by simp_all
    exact congrArg (fun d ↦ { g with depth := d }) same

/-- `Gathering.step` takes a text exactly where it is in no skipped element. -/
theorem step_enter_text {o : Spot} {t : String} (text : o.node = .text t)
    (inside : g.depth = depthIn skips (root.ancestorsBelow o)) :
    g.step skips (.enter o) = g.past root skips [o] := by
  have out : (root.isOutside skips o = true) ↔ ¬ 0 < g.depth := by
    rw [inside, depthIn_pos_iff, Spot.isOutside, Bool.not_eq_true', Bool.not_eq_true]
  simp only [Gathering.step, text, Node.isElement, Bool.false_and, Bool.false_eq_true, if_false]
  split
  next some => rw [Gathering.past, List.filter_cons_of_neg (by simp [out, some])]; simp
  next none => rw [Gathering.past, List.filter_cons_of_pos (out.2 none)]; simp [text, Node.chars]

/-- `Gathering.step` changes nothing on entering what is neither element nor text. -/
theorem step_enter_other {o : Spot} (noElement : o.node.isElement = false) (noText : o.node.isText = false) :
    g.step skips (.enter o) = g := by
  cases holds : o.node with
  | element _ _ _ _ => rw [holds] at noElement; cases noElement
  | text _ => rw [holds] at noText; cases noText
  | comment _ | doctype _ => simp [Gathering.step, holds, Node.isElement]

/-- `Gathering.step` changes nothing on leaving what is no element. -/
theorem step_leave_other {o : Spot} (noElement : o.node.isElement = false) : g.step skips (.leave o) = g := by
  simp [Gathering.step, noElement]

/-! ### The walk -/

/-- The walk around a node that is no element takes what it takes on entering. -/
theorem walk_leaf {o : Spot} (noElement : o.node.isElement = false)
    (inside : g.depth = depthIn skips (root.ancestorsBelow o)) {texts : List Spot}
    (entered : g.step skips (.enter o) = g.past root skips texts) :
    Tracks root skips g [.enter o, .leave o] ∧
      [Edge.enter o, .leave o].foldl (Gathering.step skips) g = g.past root skips texts := by
  have front : (Edge.leave o).front root = root.ancestorsBelow o := if_neg (by simp [noElement])
  have back : (Edge.enter o).back root = root.ancestorsBelow o := if_neg (by simp [noElement])
  have left : (g.step skips (.enter o)).step skips (.leave o) = g.past root skips texts := by
    rw [step_leave_other noElement, entered]
  refine ⟨.cons inside ?_ (.cons ?_ ?_ tracks_nil), left⟩
  · rw [entered, back]
    exact inside
  · rw [entered, front]
    exact inside
  · rw [left]
    exact inside

mutual

/-- The walk around a node (`edgesOf`) comes back with the number with which it went in, and with the
`textsWithin` the node that are not left out. -/
theorem walk_edgesOf {s : Spot} (low : root.level ≤ s.level) (before after : List Node) (g : Gathering)
    (inside : g.depth = depthIn skips (root.lineBelow s)) : (n : Node) →
    Tracks root skips g (edgesOf before after (some s) n) ∧
      (edgesOf before after (some s) n).foldl (Gathering.step skips) g =
        g.past root skips (Spot.textsWithin before after (some s) n)
  | .element serial name attributes children => by
    let o := Spot.mk (.element serial name attributes children) before after (some s)
    have line : root.lineBelow o = o :: root.lineBelow s := Spot.lineBelow_child low _ before after
    have entered : g.step skips (.enter o) = { g with depth := depthIn skips (o :: root.lineBelow s) } :=
      step_enter_element rfl inside
    obtain ⟨tracks, walked⟩ := walk_edgesAmong (s := o) (Nat.le_succ_of_le low) [] (g.step skips (.enter o))
      (by rw [entered, line]) children
    have deep : ((g.step skips (.enter o)).past root skips (Spot.textsAmong (some o) [] children)).depth =
        depthIn skips (o :: root.lineBelow s) := by
      rw [entered]
      rfl
    have left : ((g.step skips (.enter o)).past root skips (Spot.textsAmong (some o) [] children)).step skips
        (.leave o) = g.past root skips (Spot.textsAmong (some o) [] children) := by
      rw [step_leave_element rfl deep, ← inside, entered]
      rfl
    refine ⟨.cons inside ?_ (tracks.append (.cons ?_ ?_ tracks_nil)), ?_⟩
    · rw [entered, ← line]
      rfl
    · rw [walked, deep, ← line]
      rfl
    · rw [walked, left]
      exact inside
    · rw [edgesOf, List.foldl_cons, List.foldl_append, walked]
      exact left
  | .text t => walk_leaf (o := .mk (.text t) before after (some s)) rfl inside (step_enter_text rfl inside)
  | .comment t => by
    let o := Spot.mk (.comment t) before after (some s)
    have entered : g.step skips (.enter o) = g.past root skips [] := by
      rw [step_enter_other rfl rfl, Gathering.past_nil]
    exact walk_leaf rfl inside entered
  | .doctype t => by
    let o := Spot.mk (.doctype t) before after (some s)
    have entered : g.step skips (.enter o) = g.past root skips [] := by
      rw [step_enter_other rfl rfl, Gathering.past_nil]
    exact walk_leaf rfl inside entered

/-- The walk around a row of nodes (`edgesAmong`) comes back with the number with which it went in, and with the
`textsAmong` the row that are not left out. -/
theorem walk_edgesAmong {s : Spot} (low : root.level ≤ s.level) (before : List Node) (g : Gathering)
    (inside : g.depth = depthIn skips (root.lineBelow s)) : (nodes : List Node) →
    Tracks root skips g (edgesAmong (some s) before nodes) ∧
      (edgesAmong (some s) before nodes).foldl (Gathering.step skips) g =
        g.past root skips (Spot.textsAmong (some s) before nodes)
  | [] => ⟨tracks_nil, (Gathering.past_nil).symm⟩
  | n :: rest => by
    obtain ⟨tracks, walked⟩ := walk_edgesOf low before rest g inside n
    obtain ⟨tracks', walked'⟩ := walk_edgesAmong low (n :: before) (g.past root skips _) inside rest
    rw [edgesAmong, Spot.textsAmong, List.foldl_append, walked, Gathering.past_append]
    exact ⟨tracks.append (walked ▸ tracks'), walked'⟩

end

end Walk

/-! ## The text of an element -/

namespace Spot

variable (root : Spot) (excluded : List String)

/-- Whether one of the selectors means an element on its page. Texts that are no selectors mean nothing. -/
def isMeant (o : Spot) : Bool := (excluded.filterMap Selector.parse?).any (·.matchesOnPage o)

/-- Whether the walk around an element skips another one. -/
def skips (o : Spot) : Bool := o.serial != root.serial && isMeant excluded o

/-- What the walk around an element has gathered behind some of its steps. -/
def gathered (walked : List Edge) : Gathering := walked.foldl (Gathering.step (root.skips excluded)) {}

variable {root}

/-- The walk around an element goes around what is in it. -/
theorem edges_of_isElement (element : root.node.isElement) :
    root.edges = .enter root :: (edgesAmong (some root) [] root.children ++ [.leave root]) := by
  obtain ⟨n, before, after, parent⟩ := root
  cases n with
  | element serial name attributes children => rfl
  | text _ | comment _ | doctype _ => cases element

/-- The walk around an element gathers its `textOutside`, and comes back with the depth zero. -/
theorem gathered_edges (element : root.node.isElement) :
    Tracks root (root.skips excluded) {} root.edges ∧
      root.gathered excluded root.edges = { text := root.textOutside (root.skips excluded) } := by
  have kept : root.skips excluded root = false := by simp [skips]
  have none : depthIn (root.skips excluded) (root.lineBelow root) = 0 := by rw [lineBelow_self]; rfl
  have alone : depthIn (root.skips excluded) [root] = 0 := by simp [depthIn, kept]
  have start : ({} : Gathering).depth = depthIn (root.skips excluded) [] := rfl
  have entered : ({} : Gathering).step (root.skips excluded) (.enter root) = {} := by
    rw [step_enter_element element start, alone]
  have left (text : List Char) : Gathering.step (root.skips excluded) { text } (.leave root) = { text } := by
    have last : Gathering.depth { text } = depthIn (root.skips excluded) [root] := alone.symm
    rw [step_leave_element element last, ← start]
  obtain ⟨tracks, walked⟩ := walk_edgesAmong (Nat.le_refl root.level) [] {} none.symm root.children
  have above : depthIn (root.skips excluded) (root.ancestorsBelow root) = 0 := by rw [ancestorsBelow_self]; rfl
  rw [edges_of_isElement element, gathered, List.foldl_cons, List.foldl_append, entered, walked]
  refine ⟨.cons above.symm ?_ ?_, left _⟩
  · rw [entered, Edge.back, if_pos element, none]
  · rw [entered]
    refine tracks.append (.cons ?_ ?_ tracks_nil)
    · rw [walked, Edge.front, if_pos element, none]
      rfl
    · rw [walked, Edge.back, above]
      exact congrArg Gathering.depth (left _)

/-- `textWithout` is the `textOutside` of what the walk `skips`; where no element below has the serial number of
`root`, that is what the selectors mean (`isMeant`). At each step of the walk its depth is `depthIn`, so it ends
with zero. Without selectors it is the whole text. -/
theorem textWithout_eq (element : root.node.isElement) :
    root.textWithout excluded = String.ofList (root.textOutside (root.skips excluded)) ∧
    ((∀ o ∈ root.descendants, o.serial ≠ root.serial) →
      root.textOutside (root.skips excluded) = root.textOutside (isMeant excluded)) ∧
    (∀ walked e rest, root.edges = walked ++ e :: rest →
      (root.gathered excluded walked).depth = depthIn (root.skips excluded) (e.front root) ∧
        (root.gathered excluded (walked ++ [e])).depth = depthIn (root.skips excluded) (e.back root)) ∧
    (root.gathered excluded root.edges).depth = 0 ∧
    root.textWithout [] = root.text := by
  have text (excluded : List String) :
      root.textWithout excluded = String.ofList (root.textOutside (root.skips excluded)) := by
    have walked := (gathered_edges excluded element).2
    exact congrArg (fun g ↦ String.ofList (Gathering.text g)) walked
  obtain ⟨tracks, walked⟩ := gathered_edges excluded element
  refine ⟨text excluded, fun own ↦ ?_, tracks, congrArg Gathering.depth walked, ?_⟩
  · refine textOutside_congr root _ fun o below ↦ ?_
    rw [skips, bne_iff_ne.2 (own o below), Bool.true_and]
  · have all : root.texts.filter (root.isOutside (root.skips [])) = root.texts := by
      rw [List.filter_eq_self]
      intro t _
      simp [isOutside, skips, isMeant]
    rw [text, textOutside, all, flatMap_texts element, Spot.text]

/-- A panel with a note in a note, and one in front of a text that stays. -/
def panel : Spot :=
  let named (serial : Nat) (name : String) (children : List Node) := Node.element serial ⟨.html, name⟩ [] children
  .mk (named 1 "div" [.text "a", .comment "p", named 2 "p" [.text "x", named 3 "p" [.text "y"], .text "z"], .text "b",
    named 4 "span" [named 5 "p" [], .text "c"]]) [] [] none

/-- `textWithout` of the `panel` is the text outside of its notes. -/
theorem textWithout_eq_panel : panel.node.isElement ∧ (∀ o ∈ panel.descendants, o.serial ≠ panel.serial) ∧
    panel.textWithout ["p", "p["] = String.ofList (panel.textOutside (isMeant ["p", "p["])) ∧
    panel.textOutside (isMeant ["p", "p["]) = ['a', 'b', 'c'] := by
  have own : ∀ o ∈ panel.descendants, o.serial ≠ panel.serial := by decide
  obtain ⟨text, only, -⟩ := textWithout_eq ["p", "p["] (show panel.node.isElement from rfl)
  exact ⟨rfl, own, by rw [text, only own], by decide +kernel⟩

end Spot

end Gazette.Html
