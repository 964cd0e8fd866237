import Gazette.Html.Rules.Table

/-!
# Reading a page

`Document.parse` makes a tree of any text. Every part of the text (`Token`) is read by the rules for where it
stands (`Mode.rule`); parts may be read again in another mode, a bounded number of times (`Builder.settle`).
-/

namespace Gazette.Html

/-- The rules of a mode. -/
def Mode.rule : Mode → Builder → Token → Next
  | initial => Rules.initial
  | beforeHtml => Rules.beforeHtml
  | beforeHead => Rules.beforeHead
  | inHead => Rules.inHead
  | afterHead => Rules.afterHead
  | inBody => Rules.inBody
  | text => Rules.text
  | inTable => Rules.inTable
  | inTableText => Rules.inTableText
  | inCaption => Rules.inCaption
  | inColumnGroup => Rules.inColumnGroup
  | inTableBody => Rules.inTableBody
  | inRow => Rules.inRow
  | inCell => Rules.inCell
  | inSelect => Rules.inSelect
  | inSelectInTable => Rules.inSelectInTable
  | inTemplate => Rules.inTemplate
  | afterBody => Rules.afterBody
  | inFrameset => Rules.inFrameset
  | afterFrameset => Rules.afterFrameset
  | afterAfterBody => Rules.afterAfterBody
  | afterAfterFrameset => Rules.afterAfterFrameset

namespace Builder

/-- What comes next for a part of the text, by the `rule` of the mode or by `inForeign`. -/
def dispatch (b : Builder) (t : Token) : Next :=
  if Rules.isForeign b t then Rules.inForeign b t else b.mode.rule b t

/-- The state after a part of the text, given what comes next for it. The fuel bounds how often it is
read. -/
def settle : Nat → Token → Next → Builder
  | 0, _, .done b => b
  | 0, _, .again _ b => b
  | 0, _, .by _ b => b
  | 0, _, .fostered b => b
  | 0, _, .instead _ b => b
  | fuel + 1, t, next =>
    match next with
    | .done b => { b with fostering := false }
    | .again mode b =>
      let b := { b with mode, fostering := false }
      settle fuel t (b.dispatch t)
    | .by mode b => settle fuel t (mode.rule b t)
    | .fostered b => settle fuel t (Rules.inBody { b with fostering := true } t)
    | .instead t b => settle fuel t (Rules.inBody b t)

/-- A part of the text without the line feed that does not count. -/
def withoutLineFeed (b : Builder) (t : Token) : Option Token :=
  match t with
  | .blank ('\n' :: run) =>
    if b.skipsLineFeed then (if run.isEmpty then none else some (.blank run)) else some t
  | t => some t

/-- The state after a part of the text. -/
def read (b : Builder) (t : Token) : Builder :=
  match b.withoutLineFeed t with
  | none => { b with skipsLineFeed := false }
  | some t =>
    let b := { b with skipsLineFeed := false }
    settle (64 + 8 * (b.stack.length + b.templates.length)) t (b.dispatch t)

/-- The characters of raw text as parts of a text. -/
def runsOf (cs : List Char) : List Token :=
  let lead := cs.takeWhile isSpace
  let rest := cs.drop lead.length
  (if lead.isEmpty then [] else [.blank lead]) ++ if rest.isEmpty then [] else [.text rest]

/-- The state behind a text, every part of it by `read`. The fuel bounds the number of its parts. -/
def readAll : Nat → Builder → List Char → Builder
  | 0, b, _ => b.read .eof
  | fuel + 1, b, cs =>
    match b.raw with
    | some kind =>
      let (body, rest) := kind.split b.currentName.text cs
      readAll fuel ((runsOf body).foldl read { b with raw := none }) rest
    | none =>
      let inForeign := !b.stack.isEmpty && b.currentName.space != .html
      let (tokens, rest) := next inForeign cs
      let b := tokens.foldl read b
      if tokens == [.eof] then b else readAll fuel b rest

end Builder

/-- Line ends as line feeds. -/
def normalizeBreaks : List Char → List Char
  | [] => []
  | '\r' :: '\n' :: rest => '\n' :: normalizeBreaks rest
  | c :: rest => (if c = '\r' then '\n' else c) :: normalizeBreaks rest

/-- The page of a text, by `readAll`. A byte order mark in front does not count. -/
def Document.parse (s : String) : Document :=
  let cs := normalizeBreaks (Chars.dropLead ['\ufeff'] s.toList)
  (Builder.readAll (2 * cs.length + 2) {} cs).arena.toDocument

end Gazette.Html
