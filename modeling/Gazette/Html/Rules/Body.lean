import Gazette.Html.Rules

/-!
# Rules for the body

Blocks close an open paragraph, formatting is opened again in front of text, and lists, headings and forms end
what went before them: `inBody`. Drawings and formulas have rules of their own: `inForeign`.
-/

namespace Gazette.Html.Rules

open Builder

def blocks : List String :=
  ["address", "article", "aside", "blockquote", "center", "details", "dialog", "dir", "div", "dl",
    "fieldset", "figcaption", "figure", "footer", "header", "hgroup", "main", "menu", "nav", "ol",
    "p", "search", "section", "summary", "ul"]

/-- Formatting, but for links. -/
def formattingNames : List String :=
  ["b", "big", "code", "em", "font", "i", "s", "small", "strike", "strong", "tt", "u"]

/-- Parts of tables and pages that mean nothing in the body. -/
def strayParts : List String :=
  ["caption", "col", "colgroup", "frame", "head", "tbody", "td", "tfoot", "th", "thead", "tr"]

def isHidden (t : Tag) : Bool :=
  t.attributes.any fun (name, value) ↦ name == "type" && Text.asciiLower value == "hidden"

/-- The body, where one is open. -/
def openBody? (b : Builder) : Option Nat :=
  match b.stack.reverse with
  | _ :: id :: _ => if b.isNamed "body" id then some id else none
  | _ => none

/-- A page ended in a template closes it; else reading ends. -/
def endOfText (b : Builder) : Next :=
  if b.templates.isEmpty then .done b else .by .inTemplate b

/-- A list item closed by the next one: the innermost of `names`, unless another special element is
further in. -/
def closeItem (b : Builder) (names : List String) : Builder :=
  let rec go : List Nat → Option String
    | [] => none
    | id :: rest =>
      let n := b.name id
      if isHtml names n then some n.text
      else if isSpecial n && !isHtml ["address", "div", "p"] n then none
      else go rest
  match go b.stack with
  | some text => (b.closeImpliedExcept [text]).popNamed text
  | none => b

/-- The names of elements that drawings write with capitals. -/
def svgNames : List String :=
  ["altGlyph", "altGlyphDef", "altGlyphItem", "animateColor", "animateMotion", "animateTransform",
    "clipPath", "feBlend", "feColorMatrix", "feComponentTransfer", "feComposite", "feConvolveMatrix",
    "feDiffuseLighting", "feDisplacementMap", "feDistantLight", "feDropShadow", "feFlood", "feFuncA",
    "feFuncB", "feFuncG", "feFuncR", "feGaussianBlur", "feImage", "feMerge", "feMergeNode",
    "feMorphology", "feOffset", "fePointLight", "feSpecularLighting", "feSpotLight", "feTile",
    "feTurbulence", "foreignObject", "glyphRef", "linearGradient", "radialGradient", "textPath"]

/-- The attributes that drawings write with capitals. -/
def svgAttributes : List String :=
  ["attributeName", "attributeType", "baseFrequency", "baseProfile", "calcMode", "clipPathUnits",
    "diffuseConstant", "edgeMode", "filterUnits", "glyphRef", "gradientTransform", "gradientUnits",
    "kernelMatrix", "kernelUnitLength", "keyPoints", "keySplines", "keyTimes", "lengthAdjust",
    "limitingConeAngle", "markerHeight", "markerUnits", "markerWidth", "maskContentUnits",
    "maskUnits", "numOctaves", "pathLength", "patternContentUnits", "patternTransform",
    "patternUnits", "pointsAtX", "pointsAtY", "pointsAtZ", "preserveAlpha", "preserveAspectRatio",
    "primitiveUnits", "refX", "refY", "repeatCount", "repeatDur", "requiredExtensions",
    "requiredFeatures", "specularConstant", "specularExponent", "spreadMethod", "startOffset",
    "stdDeviation", "stitchTiles", "surfaceScale", "systemLanguage", "tableValues", "targetX",
    "targetY", "textLength", "viewBox", "viewTarget", "xChannelSelector", "yChannelSelector",
    "zoomAndPan"]

/-- The name of a list that reads as `name` in lower case, or `name` itself. -/
def respelt (names : List String) (name : String) : String :=
  (names.find? fun n ↦ Text.asciiLower n == name).getD name

/-- The attributes that belong to a language of their own. -/
def foreignAttributes : List (String × String) :=
  [("xlink:actuate", "actuate"), ("xlink:arcrole", "arcrole"), ("xlink:href", "href"),
    ("xlink:role", "role"), ("xlink:show", "show"), ("xlink:title", "title"), ("xlink:type", "type"),
    ("xml:lang", "lang"), ("xml:space", "space"), ("xmlns", "xmlns"), ("xmlns:xlink", "xlink")]

/-- The attributes of a tag in a language. -/
def attributesIn (space : Namespace) (t : Tag) : List Attribute :=
  t.attributes.map fun (name, value) ↦
    match foreignAttributes.lookup name with
    | some local_ => { name := local_, value, isForeign := true }
    | none =>
      match space with
      | .svg => { name := respelt svgAttributes name, value }
      | .mathml => { name := if name = "definitionurl" then "definitionURL" else name, value }
      | .html => { name, value }

/-- An element of another language, with `attributesIn` it. -/
def insertForeign (b : Builder) (space : Namespace) (t : Tag) : Builder :=
  let text := if space = .svg then respelt svgNames t.name else t.name
  if t.selfClosing then (b.create ⟨space, text⟩ (attributesIn space t)).1
  else b.push ⟨space, text⟩ (attributesIn space t)

/-- An element that holds nothing, in running text. -/
def insertInline (b : Builder) (t : Tag) : Builder :=
  { b.reopen.insertEmpty t with framesetOk := false }

/-- A start tag in the body. -/
def bodyStart (b : Builder) (t : Tag) : Next :=
  let is (names : List String) : Bool := names.contains t.name
  if t.name = "html" then
    .done (if b.inTemplates then b
      else { b with arena := b.arena.addMissing (root b) (attributesOf t) })
  else if belongsInHead t.name then .by .inHead b
  else if t.name = "body" then
    match openBody? b with
    | some body =>
      .done (if b.inTemplates then b
        else { b with framesetOk := false, arena := b.arena.addMissing body (attributesOf t) })
    | none => .done b
  else if t.name = "frameset" then
    match openBody? b with
    | some body =>
      if b.framesetOk then
        let b := { b with arena := b.arena.detach body, stack := [root b] }
        .done { b.insert t with mode := .inFrameset }
      else .done b
    | none => .done b
  else if is blocks then .done (b.closeOpenParagraph.insert t)
  else if is headings then
    let b := b.closeOpenParagraph
    .done ((if isHtml headings b.currentName then b.pop else b).insert t)
  else if is ["pre", "listing"] then
    .done { b.closeOpenParagraph.insert t with skipsLineFeed := true, framesetOk := false }
  else if t.name = "form" then
    if b.form.isSome && !b.inTemplates then .done b
    else
      let inTemplates := b.inTemplates
      let b := b.closeOpenParagraph.insert t
      .done (if inTemplates then b else { b with form := some b.current })
  else if t.name = "li" then
    .done ((closeItem { b with framesetOk := false } ["li"]).closeOpenParagraph.insert t)
  else if is ["dd", "dt"] then
    .done ((closeItem { b with framesetOk := false } ["dd", "dt"]).closeOpenParagraph.insert t)
  else if t.name = "plaintext" then .done { b.closeOpenParagraph.insert t with raw := some .endless }
  else if t.name = "button" then
    let b := if b.inScopeNamed endsScope "button" then b.closeImplied.popNamed "button" else b
    .done { b.reopen.insert t with framesetOk := false }
  else if t.name = "a" then .done (b.closeLink.reopen.insertFormatting t)
  else if is formattingNames then .done (b.reopen.insertFormatting t)
  else if t.name = "nobr" then
    let b := b.reopen
    let b := if b.inScopeNamed endsScope "nobr" then (b.closeFormatting "nobr").reopen else b
    .done (b.insertFormatting t)
  else if is ["applet", "marquee", "object"] then
    .done { (b.reopen.insert t).addMarker with framesetOk := false }
  else if t.name = "table" then
    let b := if b.isOld then b else b.closeOpenParagraph
    .done { b.insert t with framesetOk := false, mode := .inTable }
  else if is ["area", "br", "embed", "img", "keygen", "wbr"] then .done (insertInline b t)
  else if t.name = "input" then
    let ok := b.framesetOk && isHidden t
    .done { b.reopen.insertEmpty t with framesetOk := ok }
  else if is ["param", "source", "track"] then .done (b.insertEmpty t)
  else if t.name = "hr" then
    .done { b.closeOpenParagraph.insertEmpty t with framesetOk := false }
  else if t.name = "image" then .instead (.startTag { t with name := "img" }) b
  else if t.name = "textarea" then
    .done { b.insertRaw t .withReferences with skipsLineFeed := true, framesetOk := false }
  else if t.name = "xmp" then
    .done ({ b.closeOpenParagraph.reopen with framesetOk := false }.insertRaw t .plain)
  else if t.name = "iframe" then .done ({ b with framesetOk := false }.insertRaw t .plain)
  else if is ["noembed", "noscript"] then .done (b.insertRaw t .plain)
  else if t.name = "select" then
    let inTable :=
      [Mode.inTable, .inCaption, .inTableBody, .inRow, .inCell].contains b.mode
    .done { b.reopen.insert t with
      framesetOk := false, mode := if inTable then .inSelectInTable else .inSelect }
  else if is ["optgroup", "option"] then
    .done ((if b.currentIs "option" then b.pop else b).reopen.insert t)
  else if is ["rb", "rtc"] then
    .done ((if b.inScopeNamed endsScope "ruby" then b.closeImplied else b).insert t)
  else if is ["rp", "rt"] then
    .done ((if b.inScopeNamed endsScope "ruby" then b.closeImpliedExcept ["rtc"] else b).insert t)
  else if t.name = "math" then .done (insertForeign b.reopen .mathml t)
  else if t.name = "svg" then .done (insertForeign b.reopen .svg t)
  else if is strayParts then .done b
  else .done (b.reopen.insert t)

/-- An end tag in the body. -/
def bodyEnd (b : Builder) (t : Tag) : Next :=
  let is (names : List String) : Bool := names.contains t.name
  let close (ends : Name → Bool) : Next :=
    .done (if b.inScopeNamed ends t.name then (b.closeImpliedExcept [t.name]).popNamed t.name else b)
  if t.name = "template" then .by .inHead b
  else if t.name = "body" then
    .done (if b.inScopeNamed endsScope "body" then { b with mode := .afterBody } else b)
  else if t.name = "html" then
    if b.inScopeNamed endsScope "body" then .again .afterBody b else .done b
  else if t.name = "p" then
    .done (if b.inScopeNamed endsButtonScope "p" then b else b.insertNamed "p").closeParagraph
  else if is blocks || is ["button", "listing", "pre"] then
    .done (if b.inScopeNamed endsScope t.name then b.closeImplied.popNamed t.name else b)
  else if t.name = "form" then
    if b.inTemplates then
      .done (if b.inScopeNamed endsScope "form" then b.closeImplied.popNamed "form" else b)
    else
      match b.form with
      | none => .done b
      | some form =>
        let b := { b with form := none }
        .done (if b.inScope endsScope (· == form) then b.closeImplied.unstack form else b)
  else if t.name = "li" then close endsListScope
  else if is ["dd", "dt"] then close endsScope
  else if is headings then
    .done (if b.inScope endsScope fun id ↦ isHtml headings (b.name id) then
      b.closeImplied.popThrough (isHtml headings) else b)
  else if t.name = "a" || t.name = "nobr" || is formattingNames then .done (b.closeFormatting t.name)
  else if is ["applet", "marquee", "object"] then
    .done (if b.inScopeNamed endsScope t.name then
      (b.closeImplied.popNamed t.name).clearToMarker else b)
  else if t.name = "br" then .done (insertInline b { t with attributes := [] })
  else .done (b.closeAny t.name)

/-- In the body: tags by `bodyStart` and `bodyEnd`. -/
def inBody (b : Builder) : Token → Next
  | .nul => .done b
  | .blank run => .done (b.reopen.addText run)
  | .text run => .done { b.reopen.addText run with framesetOk := false }
  | .doctype _ => .done b
  | .comment s => .done (b.addComment s)
  | .startTag t => bodyStart b t
  | .endTag t => bodyEnd b t
  | .eof => endOfText b

/-! ## Other languages -/

/-- Whether a part of the text is read by the rules of another language. -/
def isForeign (b : Builder) (token : Token) : Bool :=
  let n := b.currentName
  let isText : Bool :=
    match token with
    | .blank _ => true
    | .text _ => true
    | .nul => true
    | _ => false
  let isStart (p : String → Bool) : Bool :=
    match token with
    | .startTag t => p t.name
    | _ => false
  if token == .eof || b.stack.isEmpty || n.space == .html then false
  else if isMathText n && (isText || isStart fun s ↦ s != "mglyph" && s != "malignmark") then false
  else if isSvgHtml n && (isText || isStart fun _ ↦ true) then false
  else if n == ⟨.mathml, "annotation-xml"⟩ && isStart (· == "svg") then false
  else true

/-- The start tags that end a drawing or a formula. -/
def endsForeign (t : Tag) : Bool :=
  ["b", "big", "blockquote", "body", "br", "center", "code", "dd", "div", "dl", "dt", "em", "embed",
    "h1", "h2", "h3", "h4", "h5", "h6", "head", "hr", "i", "img", "li", "listing", "menu", "meta",
    "nobr", "ol", "p", "pre", "ruby", "s", "small", "span", "strong", "strike", "sub", "sup",
    "table", "tt", "u", "ul", "var"].contains t.name ||
    (t.name == "font" && t.attributes.any fun (name, _) ↦ ["color", "face", "size"].contains name)

/-- A drawing or a formula left for the HTML around it. -/
def leaveForeign (b : Builder) : Builder :=
  b.popTo fun n ↦ n.space == .html || isMathText n || isSvgHtml n

/-- An end tag in another language: the innermost element of its name is closed, unless HTML is further
in. -/
def foreignEnd (b : Builder) (t : Tag) : Next :=
  let rec go (first : Bool) : List Nat → Next
    | [] => .done b
    | [_] => .done b
    | id :: outer =>
      let n := b.name id
      if !first && n.space == .html then .by b.mode b
      else if Text.asciiLower n.text == Text.asciiLower t.name then .done { b with stack := outer }
      else go false outer
  go true b.stack

/-- In another language: the start tags of `endsForeign` lead back to HTML, and end tags go by `foreignEnd`. -/
def inForeign (b : Builder) : Token → Next
  | .nul => .done (b.addText [replacement])
  | .blank run => .done (b.addText run)
  | .text run => .done { b.addText run with framesetOk := false }
  | .doctype _ => .done b
  | .comment s => .done (b.addComment s)
  | .startTag t =>
    if endsForeign t then .by b.mode (leaveForeign b)
    else .done (insertForeign b b.currentName.space t)
  | .endTag t =>
    if t.name = "br" || t.name = "p" then .by b.mode (leaveForeign b) else foreignEnd b t
  | .eof => .done b

end Gazette.Html.Rules
