import Gazette.Html.Builder

/-!
# Rules outside the body

A rule takes the state and the next part of the text and says what comes `Next`: the part is done with, is to be
read again in another mode, or is to be read by the rules of another mode. Here are the rules from the start of
a page (`initial`) to the end of its head (`inHead`, `afterHead`), for raw text (`text`), for what follows the
body (`afterBody`), and for frame sets (`inFrameset`).
-/

namespace Gazette.Html

/-- What comes next. -/
inductive Next
  /-- The part is done with. -/
  | done (b : Builder)
  /-- The part is read again in a mode. -/
  | again (mode : Mode) (b : Builder)
  /-- The part is read by the rules of another mode. -/
  | by (mode : Mode) (b : Builder)
  /-- The part is read by the rules of the body, and what it adds goes in front of the table. -/
  | fostered (b : Builder)
  /-- Another part is read in its place. -/
  | instead (t : Token) (b : Builder)

namespace Rules

/-! ## Document types -/

/-- The public identifiers of old document types. -/
def oldPublic : List String :=
  ["-//w3o//dtd w3 html strict 3.0//en//", "-/w3c/dtd html 4.0 transitional/en", "html"]

/-- How the public identifiers of old document types begin. -/
def oldPrefixes : List String := [
  "-//ietf//dtd html 2.0 level 1//", "-//ietf//dtd html 2.0 level 2//",
  "-//ietf//dtd html 2.0 strict level 1//", "-//ietf//dtd html 2.0 strict level 2//",
  "-//ietf//dtd html 2.0 strict//", "-//ietf//dtd html 2.0//", "-//ietf//dtd html 2.1e//",
  "-//ietf//dtd html 3.0//", "-//ietf//dtd html 3.2 final//", "-//ietf//dtd html 3.2//",
  "-//ietf//dtd html 3//", "-//ietf//dtd html level 0//", "-//ietf//dtd html level 1//",
  "-//ietf//dtd html level 2//", "-//ietf//dtd html level 3//",
  "-//ietf//dtd html strict level 0//", "-//ietf//dtd html strict level 1//",
  "-//ietf//dtd html strict level 2//", "-//ietf//dtd html strict level 3//",
  "-//ietf//dtd html strict//", "-//ietf//dtd html//", "-//w3c//dtd html 3 1995-03-24//",
  "-//w3c//dtd html 3.2 draft//", "-//w3c//dtd html 3.2 final//", "-//w3c//dtd html 3.2//",
  "-//w3c//dtd html 3.2s draft//", "-//w3c//dtd html 4.0 frameset//",
  "-//w3c//dtd html 4.0 transitional//", "-//w3c//dtd html experimental 19960712//",
  "-//w3c//dtd html experimental 970421//", "-//w3c//dtd w3 html//", "-//w3o//dtd w3 html 3.0//"]

/-- How the public identifiers begin of document types that are old without a system identifier. -/
def oldWithoutSystem : List String :=
  ["-//w3c//dtd html 4.01 frameset//", "-//w3c//dtd html 4.01 transitional//"]

/-- Whether a document type is none of today, by `oldPublic`, `oldPrefixes` and `oldWithoutSystem`. -/
def isOld (d : Doctype) : Bool :=
  let begins (prefixes : List String) (s : String) : Bool :=
    prefixes.any fun lead ↦ Text.startsWith lead s
  d.isBroken || d.name != some "html" ||
    match d.publicId.map Text.asciiLower with
    | none => false
    | some id =>
      oldPublic.contains id || begins oldPrefixes id || (begins oldWithoutSystem id && d.systemId.isNone)

/-! ## Up to the body -/

/-- The start of a page. -/
def initial (b : Builder) : Token → Next
  | .blank _ => .done b
  | .comment s => .done (b.addCommentTo 0 s)
  | .doctype d =>
    let arena := (b.arena.create (.doctype (d.name.getD ""))).append 0 b.arena.size
    .done { b with arena, isOld := isOld d, mode := .beforeHtml }
  | _ => .again .beforeHtml { b with isOld := true }

/-- End tags that stand for an element not yet there. -/
def opensByEnding (name : String) : Bool := ["head", "body", "html", "br"].contains name

/-- In front of the outermost element. -/
def beforeHtml (b : Builder) : Token → Next
  | .blank _ => .done b
  | .doctype _ => .done b
  | .comment s => .done (b.addCommentTo 0 s)
  | .startTag t =>
    if t.name = "html" then .done { b.openRoot (Builder.attributesOf t) with mode := .beforeHead }
    else .again .beforeHead (b.openRoot [])
  | .endTag t => if opensByEnding t.name then .again .beforeHead (b.openRoot []) else .done b
  | _ => .again .beforeHead (b.openRoot [])

/-- In front of the head. -/
def beforeHead (b : Builder) (token : Token) : Next :=
  let withHead : Next :=
    let b := b.insertNamed "head"
    .again .inHead { b with head := some b.current }
  match token with
  | .blank _ => .done b
  | .doctype _ => .done b
  | .comment s => .done (b.addComment s)
  | .startTag t =>
    if t.name = "html" then .by .inBody b
    else if t.name = "head" then
      let b := b.insert t
      .done { b with head := some b.current, mode := .inHead }
    else withHead
  | .endTag t => if opensByEnding t.name then withHead else .done b
  | _ => withHead

/-- A template opened. -/
def openTemplate (b : Builder) (t : Tag) : Next :=
  let b := (b.insert t).addMarker
  .done { b with framesetOk := false, mode := .inTemplate, templates := .inTemplate :: b.templates }

/-- In the head. -/
def inHead (b : Builder) (token : Token) : Next :=
  match token with
  | .blank run => .done (b.addText run)
  | .doctype _ => .done b
  | .comment s => .done (b.addComment s)
  | .startTag t =>
    if t.name = "html" then .by .inBody b
    else if ["base", "basefont", "bgsound", "link", "meta"].contains t.name then
      .done (b.insertEmpty t)
    else if t.name = "title" then .done (b.insertRaw t .withReferences)
    else if ["noframes", "style", "noscript"].contains t.name then .done (b.insertRaw t .plain)
    else if t.name = "script" then .done (b.insertRaw t .script)
    else if t.name = "template" then openTemplate b t
    else if t.name = "head" then .done b
    else .again .afterHead b.pop
  | .endTag t =>
    if t.name = "head" then .done { b.pop with mode := .afterHead }
    else if t.name = "template" then .done (if b.inTemplates then b.closeTemplate else b)
    else if opensByEnding t.name then .again .afterHead b.pop
    else .done b
  | _ => .again .afterHead b.pop

/-- What belongs in the head wherever it stands. -/
def belongsInHead (name : String) : Bool :=
  ["base", "basefont", "bgsound", "link", "meta", "noframes", "script", "style", "template",
    "title"].contains name

/-- Behind the head. -/
def afterHead (b : Builder) (token : Token) : Next :=
  let withBody : Next := .again .inBody (b.insertNamed "body")
  match token with
  | .blank run => .done (b.addText run)
  | .doctype _ => .done b
  | .comment s => .done (b.addComment s)
  | .startTag t =>
    if t.name = "html" then .by .inBody b
    else if t.name = "body" then .done { b.insert t with framesetOk := false, mode := .inBody }
    else if t.name = "frameset" then .done { b.insert t with mode := .inFrameset }
    else if belongsInHead t.name then
      match b.head with
      | some head =>
        match inHead { b with stack := head :: b.stack } token with
        | .done b => .done (b.unstack head)
        | next => next
      | none => .done b
    else if t.name = "head" then .done b
    else withBody
  | .endTag t =>
    if t.name = "template" then .by .inHead b
    else if ["body", "html", "br"].contains t.name then withBody
    else .done b
  | _ => withBody

/-! ## Raw text -/

/-- In raw text. -/
def text (b : Builder) : Token → Next
  | .blank run => .done (b.addText run)
  | .text run => .done (b.addText run)
  | .eof => .again b.returnMode b.pop
  | .endTag _ => .done { b.pop with mode := b.returnMode }
  | _ => .done b

/-! ## Behind the body -/

def root (b : Builder) : Nat := b.stack.getLastD 0

/-- Behind the body. -/
def afterBody (b : Builder) : Token → Next
  | .blank _ => .by .inBody b
  | .doctype _ => .done b
  | .comment s => .done (b.addCommentTo (root b) s)
  | .startTag t => if t.name = "html" then .by .inBody b else .again .inBody b
  | .endTag t => if t.name = "html" then .done { b with mode := .afterAfterBody } else .again .inBody b
  | .eof => .done b
  | _ => .again .inBody b

/-- Behind the outermost element. -/
def afterAfterBody (b : Builder) : Token → Next
  | .blank _ => .by .inBody b
  | .doctype _ => .done b
  | .comment s => .done (b.addCommentTo 0 s)
  | .startTag t => if t.name = "html" then .by .inBody b else .again .inBody b
  | .eof => .done b
  | _ => .again .inBody b

/-! ## Frame sets -/

/-- In a frame set. -/
def inFrameset (b : Builder) : Token → Next
  | .blank run => .done (b.addText run)
  | .comment s => .done (b.addComment s)
  | .startTag t =>
    if t.name = "html" then .by .inBody b
    else if t.name = "frameset" then .done (b.insert t)
    else if t.name = "frame" then .done (b.insertEmpty t)
    else if t.name = "noframes" then .by .inHead b
    else .done b
  | .endTag t =>
    if t.name = "frameset" && 1 < b.stack.length then
      let b := b.pop
      .done (if b.currentIs "frameset" then b else { b with mode := .afterFrameset })
    else .done b
  | _ => .done b

/-- Behind a frame set. -/
def afterFrameset (b : Builder) : Token → Next
  | .blank run => .done (b.addText run)
  | .comment s => .done (b.addComment s)
  | .startTag t =>
    if t.name = "html" then .by .inBody b
    else if t.name = "noframes" then .by .inHead b
    else .done b
  | .endTag t => .done (if t.name = "html" then { b with mode := .afterAfterFrameset } else b)
  | _ => .done b

/-- Behind the outermost element of a page with a frame set. -/
def afterAfterFrameset (b : Builder) : Token → Next
  | .blank _ => .by .inBody b
  | .comment s => .done (b.addCommentTo 0 s)
  | .startTag t =>
    if t.name = "html" then .by .inBody b
    else if t.name = "noframes" then .by .inHead b
    else .done b
  | _ => .done b

end Rules

end Gazette.Html
