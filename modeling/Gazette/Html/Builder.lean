import Gazette.Html.Arena
import Gazette.Html.Token

/-!
# The state of reading a page

What is open (`Builder.current`), which formatting still applies (`Builder.live`), and where the next element
goes (`Builder.target`). All operations follow the rules by which browsers build a tree of any text whatsoever.
-/

namespace Gazette.Html

/-- The parts of a page that reading can be in. -/
inductive Mode
  | initial | beforeHtml | beforeHead | inHead | afterHead | inBody | text | inTable | inTableText
  | inCaption | inColumnGroup | inTableBody | inRow | inCell | inSelect | inSelectInTable
  | inTemplate | afterBody | inFrameset | afterFrameset | afterAfterBody | afterAfterFrameset
deriving DecidableEq, Repr

/-- Formatting that is opened again wherever it was closed too early. -/
inductive Formatting
  /-- The border that formatting does not cross. -/
  | marker
  /-- An element and its tag. -/
  | element (id : Nat) (tag : Tag)
deriving DecidableEq, Repr

/-- The state of reading a page. -/
structure Builder where
  /-- The nodes. -/
  arena : Arena := Arena.start
  /-- The open elements, the innermost first. -/
  stack : List Nat := []
  /-- The formatting that applies, the latest first. -/
  formatting : List Formatting := []
  /-- The modes of the open templates, the innermost first. -/
  templates : List Mode := []
  /-- The part of the page. -/
  mode : Mode := .initial
  /-- The part of the page before text was met. -/
  returnMode : Mode := .initial
  /-- The head. -/
  head : Option Nat := none
  /-- The open form. -/
  form : Option Nat := none
  /-- Whether a frame set may still take the place of the body. -/
  framesetOk : Bool := true
  /-- Whether what a table cannot hold goes in front of it. -/
  fostering : Bool := false
  /-- Whether a line feed in front of the next text is dropped. -/
  skipsLineFeed : Bool := false
  /-- Whether the page has no document type of today. -/
  isOld : Bool := false
  /-- Text met in a table, the latest first. -/
  tableText : List Token := []
  /-- The text in the element just opened, where it is raw. -/
  raw : Option RawKind := none

namespace Builder

/-! ## Names of open elements -/

def name (b : Builder) (id : Nat) : Name := b.arena.name id

def isNamed (b : Builder) (text : String) (id : Nat) : Bool := b.name id == ⟨.html, text⟩

/-- Whether a name is one of HTML in a list. -/
def isHtml (names : List String) (n : Name) : Bool := n.space == .html && names.contains n.text

/-- The innermost open element. -/
def current (b : Builder) : Nat := b.stack.headD 0

def currentName (b : Builder) : Name := b.name b.current

def currentIs (b : Builder) (text : String) : Bool := b.isNamed text b.current

/-- Whether text in an element of mathematics is read as HTML. -/
def isMathText (n : Name) : Bool :=
  n.space == .mathml && ["mi", "mo", "mn", "ms", "mtext"].contains n.text

/-- Whether what is in an element of a drawing is read as HTML. -/
def isSvgHtml (n : Name) : Bool :=
  n.space == .svg && ["foreignObject", "desc", "title"].contains n.text

/-- The elements that end tags do not reach through. -/
def special : List String :=
  ["address", "applet", "area", "article", "aside", "base", "basefont", "bgsound", "blockquote",
    "body", "br", "button", "caption", "center", "col", "colgroup", "dd", "details", "dir", "div",
    "dl", "dt", "embed", "fieldset", "figcaption", "figure", "footer", "form", "frame", "frameset",
    "h1", "h2", "h3", "h4", "h5", "h6", "head", "header", "hgroup", "hr", "html", "iframe", "img",
    "input", "isindex", "li", "link", "listing", "main", "marquee", "menu", "meta", "nav", "noembed",
    "noframes", "noscript", "object", "ol", "p", "param", "plaintext", "pre", "script", "section",
    "select", "source", "style", "summary", "table", "tbody", "td", "template", "textarea", "tfoot",
    "th", "thead", "title", "tr", "track", "ul", "wbr", "xmp"]

def isSpecial (n : Name) : Bool := isHtml special n

def headings : List String := ["h1", "h2", "h3", "h4", "h5", "h6"]

/-- Where looking for an open element ends. -/
def endsScope (n : Name) : Bool :=
  isHtml ["applet", "caption", "html", "table", "td", "th", "marquee", "object", "template"] n ||
    isMathText n || isSvgHtml n

/-- Where looking for an open list item ends. -/
def endsListScope (n : Name) : Bool := endsScope n || isHtml ["ol", "ul"] n

/-- Where looking for an open paragraph ends. -/
def endsButtonScope (n : Name) : Bool := endsScope n || isHtml ["button"] n

/-- Where looking for an open part of a table ends. -/
def endsTableScope (n : Name) : Bool := isHtml ["html", "table", "template"] n

/-- Where looking for an open list of choices ends. -/
def endsSelectScope (n : Name) : Bool := !isHtml ["optgroup", "option"] n

/-- Whether an element that satisfies `p` is open, looking from the inside up to the first name that `ends`. -/
def inScope (b : Builder) (ends : Name → Bool) (p : Nat → Bool) : Bool :=
  let rec go : List Nat → Bool
    | [] => false
    | id :: rest => p id || (!ends (b.name id) && go rest)
  go b.stack

/-- Whether an element of HTML named `text` is `inScope`. -/
def inScopeNamed (b : Builder) (ends : Name → Bool) (text : String) : Bool :=
  b.inScope ends (b.isNamed text)

/-- Whether some open element has a name. -/
def hasOpen (b : Builder) (text : String) : Bool := b.stack.any (b.isNamed text)

/-- Whether a template is open. -/
def inTemplates (b : Builder) : Bool := b.hasOpen "template"

/-! ## Closing -/

def pop (b : Builder) : Builder := { b with stack := b.stack.tail }

/-- Elements closed up to the first one that satisfies `p`, which stays open. -/
def popTo (b : Builder) (p : Name → Bool) : Builder :=
  { b with stack := b.stack.dropWhile fun id ↦ !p (b.name id) }

/-- `popTo`, and the element that satisfies `p` closed too. -/
def popThrough (b : Builder) (p : Name → Bool) : Builder := (b.popTo p).pop

/-- `popThrough` an element of HTML named `text`. -/
def popNamed (b : Builder) (text : String) : Builder := b.popThrough (isHtml [text])

/-- The elements whose end tag may be left out. -/
def impliedEnd : List String := ["dd", "dt", "li", "option", "optgroup", "p", "rb", "rp", "rt", "rtc"]

/-- The innermost elements of `impliedEnd` closed, but for some names. -/
def closeImpliedExcept (b : Builder) (names : List String) : Builder :=
  { b with stack := b.stack.dropWhile fun id ↦
      isHtml impliedEnd (b.name id) && !isHtml names (b.name id) }

/-- The innermost elements of `impliedEnd` closed. -/
def closeImplied (b : Builder) : Builder := b.closeImpliedExcept []

/-- The elements closed whose end tag may be left out at the end of a template. -/
def closeAllImplied (b : Builder) : Builder :=
  let parts := ["caption", "colgroup", "tbody", "td", "tfoot", "th", "thead", "tr"]
  { b with stack := b.stack.dropWhile fun id ↦ isHtml (impliedEnd ++ parts) (b.name id) }

/-- The innermost paragraph closed, with the elements of `impliedEnd` in it. -/
def closeParagraph (b : Builder) : Builder := (b.closeImpliedExcept ["p"]).popNamed "p"

/-- `closeParagraph`, if a paragraph is open up to `endsButtonScope`. -/
def closeOpenParagraph (b : Builder) : Builder :=
  if b.inScopeNamed endsButtonScope "p" then b.closeParagraph else b

/-- An element no longer open, wherever it is. -/
def unstack (b : Builder) (id : Nat) : Builder := { b with stack := b.stack.filter (· ≠ id) }

/-! ## Opening -/

/-- Where a node goes. -/
inductive Target
  /-- Behind the children of an element. -/
  | within (id : Nat)
  /-- In front of a table, or, if the table has no parent, behind the children of an element. -/
  | before (table fallback : Nat)

/-- Where the next node goes: into the innermost open element, or into `override`. What a table cannot
hold goes in front of it. -/
def target (b : Builder) (override : Option Nat) : Target :=
  let id := override.getD b.current
  if b.fostering && isHtml ["table", "tbody", "tfoot", "thead", "tr"] (b.name id) then
    let rec go : List Nat → Target
      | [] => .within (b.stack.getLastD 0)
      | id :: rest =>
        if b.isNamed "template" id then .within id
        else if b.isNamed "table" id then .before id (rest.headD 0)
        else go rest
    go b.stack
  else .within id

/-- A node put at its `target`. -/
def place (b : Builder) (override : Option Nat) (id : Nat) : Builder :=
  match b.target override with
  | .within p => { b with arena := b.arena.append p id }
  | .before table fallback =>
    if (b.arena.parent table).isSome then { b with arena := b.arena.insertBefore table id }
    else { b with arena := b.arena.append fallback id }

/-- Text put at its `target`. -/
def addText (b : Builder) (run : List Char) : Builder :=
  let s := String.ofList run
  match b.target none with
  | .within p => { b with arena := b.arena.appendText p s }
  | .before table fallback =>
    if (b.arena.parent table).isSome then { b with arena := b.arena.insertTextBefore table s }
    else { b with arena := b.arena.appendText fallback s }

/-- A comment put at the end of a node. -/
def addCommentTo (b : Builder) (id : Nat) (s : String) : Builder :=
  { b with arena := (b.arena.create (.comment s)).append id b.arena.size }

/-- A comment put at its place. -/
def addComment (b : Builder) (s : String) : Builder :=
  { b with arena := b.arena.create (.comment s) }.place none b.arena.size

/-- The attributes of a tag. -/
def attributesOf (t : Tag) : List Attribute := t.attributes.map fun (name, value) ↦ { name, value }

/-- A new element put at its `target`. -/
def create (b : Builder) (name : Name) (attributes : List Attribute) : Builder × Nat :=
  let id := b.arena.size
  ({ b with arena := b.arena.create (.element name attributes) }.place none id, id)

/-- A new element by `create`, and opened. -/
def push (b : Builder) (name : Name) (attributes : List Attribute) : Builder :=
  let (b, id) := b.create name attributes
  { b with stack := id :: b.stack }

/-- The element of a tag, by `push`. -/
def insert (b : Builder) (t : Tag) : Builder := b.push ⟨.html, t.name⟩ (attributesOf t)

/-- An element opened that no tag stands for. -/
def insertNamed (b : Builder) (text : String) : Builder := b.push ⟨.html, text⟩ []

/-- The element of a tag that holds nothing. -/
def insertEmpty (b : Builder) (t : Tag) : Builder := (b.create ⟨.html, t.name⟩ (attributesOf t)).1

/-- The outermost element opened. -/
def openRoot (b : Builder) (attributes : List Attribute) : Builder :=
  let id := b.arena.size
  { b with
    arena := (b.arena.create (.element ⟨.html, "html"⟩ attributes)).append 0 id
    stack := [id] }

/-- The element of a tag opened, with raw text in it as `kind` says. -/
def insertRaw (b : Builder) (t : Tag) (kind : RawKind) : Builder :=
  { b.insert t with returnMode := b.mode, mode := .text, raw := some kind }

/-! ## Formatting -/

/-- The formatting up to the first `marker`. -/
def live : List Formatting → List (Nat × Tag)
  | [] => []
  | .marker :: _ => []
  | .element id tag :: rest => (id, tag) :: live rest

def dropEntry (id : Nat) (l : List Formatting) : List Formatting :=
  l.filter fun
    | .marker => true
    | .element id' _ => id' != id

/-- Whether formatting is that of an element. -/
def isEntry (id : Nat) : Formatting → Bool
  | .marker => false
  | .element id' _ => id' == id

/-- A border put that formatting does not cross. -/
def addMarker (b : Builder) : Builder := { b with formatting := .marker :: b.formatting }

/-- The formatting dropped down to the first marker, and that too. -/
def clearToMarker (b : Builder) : Builder :=
  { b with formatting := (b.formatting.dropWhile fun f ↦ f != .marker).drop 1 }

/-- Whether two tags have one name and the same attributes in some order. -/
def sameTag (a b : Tag) : Bool :=
  a.name == b.name && a.attributes.length == b.attributes.length &&
    a.attributes.all b.attributes.contains

/-- The element of a formatting tag opened. Of four of the `sameTag` the first one no longer applies. -/
def insertFormatting (b : Builder) (t : Tag) : Builder :=
  let alike := (live b.formatting).filter fun (_, tag) ↦ sameTag t tag
  let formatting :=
    match alike.getLast? with
    | some (id, _) => if 3 ≤ alike.length then dropEntry id b.formatting else b.formatting
    | none => b.formatting
  let b := b.insert t
  { b with formatting := .element b.current t :: formatting }

/-- Whether formatting is at a border or of an open element. -/
def isSettled (b : Builder) : Formatting → Bool
  | .marker => true
  | .element id _ => b.stack.contains id

/-- The formatting opened again that was closed too early: all from the last one that `isSettled`. -/
def reopen (b : Builder) : Builder :=
  let closed := b.formatting.takeWhile fun f ↦ !b.isSettled f
  let rest := b.formatting.drop closed.length
  let (b, entries) := closed.reverse.foldl
    (fun (b, entries) f ↦
      match f with
      | .marker => (b, entries)
      | .element _ tag =>
        let b := b.insert tag
        (b, Formatting.element b.current tag :: entries))
    ({ b with formatting := rest }, rest)
  { b with formatting := entries }

/-- An end tag in the body that has no rules of its own: the innermost element of its name is closed, unless one
that `isSpecial` is further in. -/
def closeAny (b : Builder) (text : String) : Builder :=
  let rec go : List Nat → Bool
    | [] => false
    | id :: rest => b.isNamed text id || (!isSpecial (b.name id) && go rest)
  if go b.stack then (b.closeImpliedExcept [text]).popNamed text else b

/-- The elements between a block and the formatting around it, from the block outwards, opened anew as
far as they are formatting, each around the one before. Gives the new ones, the last node, and the
element behind whose formatting that of the block comes. -/
def rewrap (b : Builder) (count last : Nat) (bookmark : Option Nat) (kept : List Nat) :
    List Nat → Builder × Nat × Option Nat × List Nat
  | [] => (b, last, bookmark, kept.reverse)
  | id :: rest =>
    match b.formatting.find? (isEntry id) with
    | some (.element _ tag) =>
      if 3 < count then
        rewrap { b with formatting := dropEntry id b.formatting } (count + 1) last bookmark kept rest
      else
        let new := b.arena.size
        let arena := b.arena.create (.element ⟨.html, tag.name⟩ (attributesOf tag))
        let formatting := b.formatting.map fun f ↦ if isEntry id f then .element new tag else f
        let arena := (arena.detach last).append new last
        rewrap { b with arena, formatting } (count + 1) new (bookmark.orElse fun () ↦ some new)
          (new :: kept) rest
    | _ => rewrap b (count + 1) last bookmark kept rest

/-- The end of formatting that overlaps with other elements, up to `rounds` times: the formatting is closed in
front of the blocks in it and opened again within each of them by `rewrap`. -/
def adopt (text : String) : Nat → Builder → Builder
  | 0, b => b
  | rounds + 1, b =>
    match (live b.formatting).find? fun (_, tag) ↦ tag.name == text with
    | none => b.closeAny text
    | some (id, tag) =>
      if !b.stack.contains id then { b with formatting := dropEntry id b.formatting }
      else if !b.inScope endsScope (· == id) then b
      else
        let inner := b.stack.takeWhile (· ≠ id)
        let outer := (b.stack.drop inner.length).drop 1
        match inner.reverse.find? fun id ↦ isSpecial (b.name id) with
        | none => { b with stack := outer, formatting := dropEntry id b.formatting }
        | some block =>
          let above := inner.takeWhile (· ≠ block)
          let between := (inner.drop above.length).drop 1
          let ancestor := outer.headD 0
          let (b, last, bookmark, kept) := b.rewrap 1 block none [] between
          let b := { b with arena := b.arena.detach last }.place (some ancestor) last
          let new := b.arena.size
          let arena := b.arena.create (.element ⟨.html, tag.name⟩ (attributesOf tag))
          let arena := (arena.moveChildren block new).append block new
          let formatting :=
            match bookmark with
            | none => b.formatting.map fun f ↦ if isEntry id f then .element new tag else f
            | some previous =>
              dropEntry id <| b.formatting.flatMap fun f ↦
                if isEntry previous f then [.element new tag, f] else [f]
          adopt text rounds
            { b with arena, formatting, stack := above ++ new :: block :: kept ++ outer }

/-- The end tag of formatting, by `adopt`. -/
def closeFormatting (b : Builder) (text : String) : Builder :=
  if b.currentIs text && !b.formatting.any (isEntry b.current) then b.pop else adopt text 8 b

/-- An open link closed by `adopt`, since links do not lie in each other. -/
def closeLink (b : Builder) : Builder :=
  match (live b.formatting).find? fun (id, _) ↦ b.isNamed "a" id with
  | none => b
  | some (id, _) =>
    let b := b.closeFormatting "a"
    { b.unstack id with formatting := dropEntry id b.formatting }

/-! ## Modes -/

/-- The mode for what is open. -/
def modeFor (b : Builder) : Mode :=
  let rec go : List Nat → Mode
    | [] => .inBody
    | id :: outer =>
      let n := b.name id
      let isLast := outer.isEmpty
      if n.space != .html then go outer
      else if n.text == "select" then
        match outer.find? fun id ↦ isHtml ["template", "table"] (b.name id) with
        | some id => if b.isNamed "table" id then .inSelectInTable else .inSelect
        | none => .inSelect
      else if (n.text == "td" || n.text == "th") && !isLast then .inCell
      else if n.text == "tr" then .inRow
      else if ["tbody", "thead", "tfoot"].contains n.text then .inTableBody
      else if n.text == "caption" then .inCaption
      else if n.text == "colgroup" then .inColumnGroup
      else if n.text == "table" then .inTable
      else if n.text == "template" then b.templates.headD .inBody
      else if n.text == "head" && !isLast then .inHead
      else if n.text == "body" then .inBody
      else if n.text == "frameset" then .inFrameset
      else if n.text == "html" then (if b.head.isNone then .beforeHead else .afterHead)
      else go outer
  go b.stack

/-- The mode set to `modeFor` what is open. -/
def resetMode (b : Builder) : Builder := { b with mode := b.modeFor }

/-- A template closed with all that is in it. -/
def closeTemplate (b : Builder) : Builder :=
  let b := (b.closeAllImplied.popNamed "template").clearToMarker
  { b with templates := b.templates.tail }.resetMode

end Builder

end Gazette.Html
