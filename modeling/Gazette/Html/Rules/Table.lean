import Gazette.Html.Rules.Body

/-!
# Rules for tables, choices and templates

What a table cannot hold goes in front of it. Parts of tables that are left out are put in: `inTable`,
`inTableBody`, `inRow`, `inCell`. Lists of choices (`inSelect`) and templates (`inTemplate`) take little or
anything.
-/

namespace Gazette.Html.Rules

open Builder

/-- The start tags of parts of tables. -/
def tableParts : List String :=
  ["caption", "col", "colgroup", "tbody", "td", "tfoot", "th", "thead", "tr"]

/-- Where a table begins. -/
def tableContext : Name → Bool := isHtml ["table", "template", "html"]

/-- Where a section of a table begins. -/
def sectionContext : Name → Bool := isHtml ["tbody", "tfoot", "thead", "template", "html"]

/-- Where a row of a table begins. -/
def rowContext : Name → Bool := isHtml ["tr", "template", "html"]

/-- In a table. -/
def inTable (b : Builder) (token : Token) : Next :=
  let chars : Next :=
    if isHtml ["table", "tbody", "tfoot", "thead", "tr"] b.currentName then
      .again .inTableText { b with tableText := [], returnMode := b.mode }
    else .fostered b
  match token with
  | .nul => chars
  | .blank _ => chars
  | .text _ => chars
  | .doctype _ => .done b
  | .comment s => .done (b.addComment s)
  | .startTag t =>
    let is (names : List String) : Bool := names.contains t.name
    if t.name = "caption" then
      .done { (b.popTo tableContext).addMarker.insert t with mode := .inCaption }
    else if t.name = "colgroup" then
      .done { (b.popTo tableContext).insert t with mode := .inColumnGroup }
    else if t.name = "col" then .again .inColumnGroup ((b.popTo tableContext).insertNamed "colgroup")
    else if is ["tbody", "tfoot", "thead"] then
      .done { (b.popTo tableContext).insert t with mode := .inTableBody }
    else if is ["td", "th", "tr"] then
      .again .inTableBody ((b.popTo tableContext).insertNamed "tbody")
    else if t.name = "table" then
      if b.inScopeNamed endsTableScope "table" then
        let b := (b.popNamed "table").resetMode
        .again b.mode b
      else .done b
    else if is ["style", "script", "template"] then .by .inHead b
    else if t.name = "input" && isHidden t then .done (b.insertEmpty t)
    else if t.name = "form" then
      .done (if b.inTemplates || b.form.isSome then b
        else { b.insertEmpty t with form := some b.arena.size })
    else .fostered b
  | .endTag t =>
    if t.name = "table" then
      .done (if b.inScopeNamed endsTableScope "table" then (b.popNamed "table").resetMode else b)
    else if t.name = "template" then .by .inHead b
    else if ["body", "html"].contains t.name || tableParts.contains t.name then .done b
    else .fostered b
  | .eof => .by .inBody b

/-- In text in a table. Text that is not all white space goes in front of the table. -/
def inTableText (b : Builder) (token : Token) : Next :=
  let flushed : Next :=
    let parts := b.tableText.reverse
    let isVisible := parts.any fun
      | .text _ => true
      | _ => false
    let b := parts.foldl
      (fun b part ↦
        match part with
        | .blank run =>
          if isVisible then { { b with fostering := true }.reopen.addText run with fostering := false }
          else b.addText run
        | .text run =>
          { { b with fostering := true }.reopen.addText run with
            fostering := false, framesetOk := false }
        | _ => b)
      { b with tableText := [] }
    .again b.returnMode b
  match token with
  | .nul => .done b
  | .blank _ => .done { b with tableText := token :: b.tableText }
  | .text _ => .done { b with tableText := token :: b.tableText }
  | _ => flushed

/-- In the caption of a table. -/
def inCaption (b : Builder) (token : Token) : Next :=
  let closed : Builder := (b.closeImplied.popNamed "caption").clearToMarker
  let isOpen := b.inScopeNamed endsTableScope "caption"
  match token with
  | .startTag t =>
    if tableParts.contains t.name then (if isOpen then .again .inTable closed else .done b)
    else .by .inBody b
  | .endTag t =>
    if t.name = "caption" then .done (if isOpen then { closed with mode := .inTable } else b)
    else if t.name = "table" then (if isOpen then .again .inTable closed else .done b)
    else if ["body", "html"].contains t.name || tableParts.contains t.name then .done b
    else .by .inBody b
  | _ => .by .inBody b

/-- In a group of columns. -/
def inColumnGroup (b : Builder) (token : Token) : Next :=
  let left : Next := if b.currentIs "colgroup" then .again .inTable b.pop else .done b
  match token with
  | .blank run => .done (b.addText run)
  | .doctype _ => .done b
  | .comment s => .done (b.addComment s)
  | .startTag t =>
    if t.name = "html" then .by .inBody b
    else if t.name = "col" then .done (b.insertEmpty t)
    else if t.name = "template" then .by .inHead b
    else left
  | .endTag t =>
    if t.name = "colgroup" then
      .done (if b.currentIs "colgroup" then { b.pop with mode := .inTable } else b)
    else if t.name = "col" then .done b
    else if t.name = "template" then .by .inHead b
    else left
  | .eof => .by .inBody b
  | _ => left

/-- In a section of a table. -/
def inTableBody (b : Builder) (token : Token) : Next :=
  let left : Next :=
    if b.inScope endsTableScope fun id ↦ isHtml ["table", "tbody", "tfoot"] (b.name id) then
      .again .inTable (b.popTo sectionContext).pop
    else .done b
  match token with
  | .startTag t =>
    if t.name = "tr" then .done { (b.popTo sectionContext).insert t with mode := .inRow }
    else if ["td", "th"].contains t.name then
      .again .inRow ((b.popTo sectionContext).insertNamed "tr")
    else if tableParts.contains t.name then left
    else .by .inTable b
  | .endTag t =>
    if ["tbody", "tfoot", "thead"].contains t.name then
      .done (if b.inScopeNamed endsTableScope t.name then
        { (b.popTo sectionContext).pop with mode := .inTable } else b)
    else if t.name = "table" then left
    else if ["body", "html"].contains t.name || tableParts.contains t.name then .done b
    else .by .inTable b
  | _ => .by .inTable b

/-- In a row of a table. -/
def inRow (b : Builder) (token : Token) : Next :=
  let closed : Builder := (b.popTo rowContext).pop
  let left : Next :=
    if b.inScopeNamed endsTableScope "tr" then .again .inTableBody closed else .done b
  match token with
  | .startTag t =>
    if ["td", "th"].contains t.name then
      .done ({ (b.popTo rowContext).insert t with mode := .inCell }.addMarker)
    else if tableParts.contains t.name then left
    else .by .inTable b
  | .endTag t =>
    if t.name = "tr" then
      .done (if b.inScopeNamed endsTableScope "tr" then { closed with mode := .inTableBody } else b)
    else if t.name = "table" then left
    else if ["tbody", "tfoot", "thead"].contains t.name then
      if b.inScopeNamed endsTableScope t.name then left else .done b
    else if ["body", "html"].contains t.name || tableParts.contains t.name then .done b
    else .by .inTable b
  | _ => .by .inTable b

/-- A cell closed by what follows it. -/
def closeCell (b : Builder) : Builder :=
  (b.closeImplied.popThrough (isHtml ["td", "th"])).clearToMarker

/-- In a cell of a table. -/
def inCell (b : Builder) (token : Token) : Next :=
  match token with
  | .startTag t =>
    if tableParts.contains t.name then
      if b.inScope endsTableScope fun id ↦ isHtml ["td", "th"] (b.name id) then
        .again .inRow (closeCell b)
      else .done b
    else .by .inBody b
  | .endTag t =>
    if ["td", "th"].contains t.name then
      .done (if b.inScopeNamed endsTableScope t.name then
        { (b.closeImplied.popNamed t.name).clearToMarker with mode := .inRow } else b)
    else if ["body", "caption", "col", "colgroup", "html"].contains t.name then .done b
    else if ["table", "tbody", "tfoot", "thead", "tr"].contains t.name then
      if b.inScopeNamed endsTableScope t.name then .again .inRow (closeCell b) else .done b
    else .by .inBody b
  | _ => .by .inBody b

/-! ## Choices -/

/-- A list of choices closed. -/
def closeSelect (b : Builder) : Builder := (b.popNamed "select").resetMode

/-- In a list of choices. -/
def inSelect (b : Builder) (token : Token) : Next :=
  let isOpen := b.inScopeNamed endsSelectScope "select"
  match token with
  | .blank run => .done (b.addText run)
  | .text run => .done (b.addText run)
  | .comment s => .done (b.addComment s)
  | .startTag t =>
    let leaveOption (b : Builder) : Builder := if b.currentIs "option" then b.pop else b
    let leaveGroup (b : Builder) : Builder := if b.currentIs "optgroup" then b.pop else b
    if t.name = "html" then .by .inBody b
    else if t.name = "option" then .done ((leaveOption b).insert t)
    else if t.name = "optgroup" then .done ((leaveGroup (leaveOption b)).insert t)
    else if t.name = "hr" then .done ((leaveGroup (leaveOption b)).insertEmpty t)
    else if t.name = "select" then .done (if isOpen then closeSelect b else b)
    else if ["input", "keygen", "textarea"].contains t.name then
      if isOpen then
        let b := closeSelect b
        .again b.mode b
      else .done b
    else if ["script", "template"].contains t.name then .by .inHead b
    else .done b
  | .endTag t =>
    if t.name = "optgroup" then
      let outer := b.stack.drop 1
      let b := if b.currentIs "option" && outer.head?.any (b.isNamed "optgroup") then b.pop else b
      .done (if b.currentIs "optgroup" then b.pop else b)
    else if t.name = "option" then .done (if b.currentIs "option" then b.pop else b)
    else if t.name = "select" then .done (if isOpen then closeSelect b else b)
    else if t.name = "template" then .by .inHead b
    else .done b
  | .eof => .by .inBody b
  | _ => .done b

/-- In a list of choices in a table. -/
def inSelectInTable (b : Builder) (token : Token) : Next :=
  let parts := ["caption", "table", "tbody", "tfoot", "thead", "tr", "td", "th"]
  let left : Next :=
    let b := closeSelect b
    .again b.mode b
  match token with
  | .startTag t => if parts.contains t.name then left else .by .inSelect b
  | .endTag t =>
    if parts.contains t.name then
      if b.inScopeNamed endsTableScope t.name then left else .done b
    else .by .inSelect b
  | _ => .by .inSelect b

/-! ## Templates -/

/-- In a template. -/
def inTemplate (b : Builder) (token : Token) : Next :=
  let switch (mode : Mode) : Next := .again mode { b with templates := mode :: b.templates.drop 1 }
  match token with
  | .startTag t =>
    if belongsInHead t.name then .by .inHead b
    else if ["caption", "colgroup", "tbody", "tfoot", "thead"].contains t.name then switch .inTable
    else if t.name = "col" then switch .inColumnGroup
    else if t.name = "tr" then switch .inTableBody
    else if ["td", "th"].contains t.name then switch .inRow
    else switch .inBody
  | .endTag t => if t.name = "template" then .by .inHead b else .done b
  | .eof =>
    if b.inTemplates then
      let b := (b.popNamed "template").clearToMarker
      let b := { b with templates := b.templates.drop 1 }.resetMode
      .again b.mode b
    else .done b
  | _ => .by .inBody b

end Gazette.Html.Rules
