import MarkedVerse.Html.Builder.Body

/-!
# Tags in tables and choices

In a table only its parts may stand. A tag that belongs further out closes what is open and is then
read again under the rules of the place outside; what belongs nowhere in a table is put in front of
it. The list of a choice drops most tags.
-/

namespace MarkedVerse.Html

namespace Builder

/-- What a rule does with a token. -/
inductive Step where
  /-- The token has been dealt with. -/
  | done (b : Builder)
  /-- The token is read once more. -/
  | again (b : Builder)

/-- Goes on under other rules. -/
def enter (b : Builder) (mode : Mode) : Builder :=
  { b with mode }

/-- A token under the rules for text, with what may not stand in a table put in front of it. -/
def foster (b : Builder) (token : Token) : Builder :=
  { ({ b with fostering := true } : Builder).body token with fostering := false }

/-- An input that is not shown. -/
def isHidden (tag : Tag) : Bool :=
  tag.attributes.any fun a => a.name == "type" && Text.lower a.value == "hidden".toList

/-- Adds a form that nothing can stand in, unless one is open. -/
def addForm (b : Builder) (tag : Tag) : Builder :=
  if b.hasOpen "template" || b.form.isSome then b
  else
    let (b, id) := b.addNode (.element tag.element)
    { b with form := some id }

/-- An opening tag in a table. -/
def openInTable (b : Builder) (tag : Tag) : Step :=
  let b' := b.popWhile fun e => !tableScope e
  match tag.name with
  | "caption" => .done ((b'.pushMarker.openTag tag).enter .caption)
  | "colgroup" => .done ((b'.openTag tag).enter .columns)
  | "col" => .again ((b'.openNamed "colgroup").enter .columns)
  | "tbody" => .done ((b'.openTag tag).enter .tableBody)
  | "tfoot" => .done ((b'.openTag tag).enter .tableBody)
  | "thead" => .done ((b'.openTag tag).enter .tableBody)
  | "td" => .again ((b'.openNamed "tbody").enter .tableBody)
  | "th" => .again ((b'.openNamed "tbody").enter .tableBody)
  | "tr" => .again ((b'.openNamed "tbody").enter .tableBody)
  | "table" =>
    if b.inScopeNamed tableScope ["table"] then .again (b.popThrough ["table"]).resetMode
    else .done b
  | "style" => .done (b.openText tag)
  | "script" => .done (b.openText tag)
  | "template" => .done (b.openTemplate tag)
  | "input" => .done (if isHidden tag then b.addEmpty tag else b.foster (.opening tag))
  | "form" => .done (b.addForm tag)
  | _ => .done (b.foster (.opening tag))

/-- Names whose closing tags mean nothing in a table. -/
def tableIgnored : List String :=
  ["body", "caption", "col", "colgroup", "html", "tbody", "td", "tfoot", "th", "thead", "tr"]

/-- A token in a table. -/
def inTable (b : Builder) (token : Token) : Step :=
  match token with
  | .text _ =>
    if b.currentIs tableParts then .again { b with mode := .tableText, outerMode := b.mode }
    else .done (b.foster token)
  | .opening tag => b.openInTable tag
  | .closing name =>
    if name = "table" then
      if b.inScopeNamed tableScope ["table"] then .done (b.popThrough ["table"]).resetMode
      else .done b
    else if tableIgnored.contains name then .done b
    else if name = "template" then .done b.closeTemplate
    else .done (b.foster token)
  | _ => .done b

/-- The text that has come in a table. When all of it is blank it stays there. -/
def flushText (b : Builder) : Builder :=
  let runs := b.pending.reverse
  let b := { b with pending := [] }
  if runs.all (·.all isBlank) then runs.foldl addText b
  else runs.foldl (fun b t => b.foster (.text t)) b

/-- A token in the text of a table. -/
def inTableText (b : Builder) (token : Token) : Step :=
  match token with
  | .text t => .done { b with pending := t :: b.pending }
  | .null => .done b
  | _ => .again (b.flushText.enter b.outerMode)

/-- Opening tags that close a caption. -/
def columnNames : List String :=
  ["caption", "col", "colgroup", "tbody", "td", "tfoot", "th", "thead", "tr"]

/-- Closes the caption. -/
def closeCaption (b : Builder) : Builder :=
  (b.popThrough ["caption"]).clearFormatting.enter .table

/-- A token in a caption. -/
def inCaption (b : Builder) (token : Token) : Step :=
  let isOpen := b.inScopeNamed tableScope ["caption"]
  match token with
  | .opening tag =>
    if columnNames.contains tag.name then if isOpen then .again b.closeCaption else .done b
    else .done (b.body token)
  | .closing name =>
    if name = "caption" then .done (if isOpen then b.closeCaption else b)
    else if name = "table" then if isOpen then .again b.closeCaption else .done b
    else if tableIgnored.contains name then .done b
    else .done (b.body token)
  | _ => .done (b.body token)

/-- Closes a group of columns and reads the token again. -/
def leaveColumns (b : Builder) : Step :=
  if b.currentIs ["colgroup"] then .again (b.pop.enter .table) else .done b

/-- A token in a group of columns. -/
def inColumns (b : Builder) (token : Token) : Step :=
  match token with
  | .text t => if t.all isBlank then .done (b.addText t) else b.leaveColumns
  | .comment => .done b
  | .nothing => .done b
  | .null => b.leaveColumns
  | .opening tag =>
    if tag.name = "col" then .done (b.addEmpty tag)
    else if tag.name = "template" then .done (b.openTemplate tag)
    else if tag.name = "html" then .done b
    else b.leaveColumns
  | .closing name =>
    if name = "colgroup" then
      .done (if b.currentIs ["colgroup"] then b.pop.enter .table else b)
    else if name = "col" then .done b
    else if name = "template" then .done b.closeTemplate
    else b.leaveColumns

/-- The names of the parts that hold rows. -/
def rowGroups : List String :=
  ["tbody", "tfoot", "thead"]

/-- Closes what is open in a group of rows. -/
def popToRows (b : Builder) : Builder :=
  b.popTo ["tbody", "tfoot", "thead", "template", "html"]

/-- Closes what is open in a row. -/
def popToRow (b : Builder) : Builder :=
  b.popTo ["tr", "template", "html"]

/-- Closes a group of rows and reads the token again. -/
def leaveRows (b : Builder) : Step :=
  if b.inScopeNamed tableScope ["table", "tbody", "tfoot"] then
    .again (b.popToRows.pop.enter .table)
  else .done b

/-- A token in a group of rows. -/
def inRows (b : Builder) (token : Token) : Step :=
  match token with
  | .opening tag =>
    if tag.name = "tr" then .done ((b.popToRows.openTag tag).enter .row)
    else if tag.name = "th" ∨ tag.name = "td" then
      .again ((b.popToRows.openNamed "tr").enter .row)
    else if ["caption", "col", "colgroup", "tbody", "tfoot", "thead"].contains tag.name then
      b.leaveRows
    else b.inTable token
  | .closing name =>
    if rowGroups.contains name then
      .done (if b.inScopeNamed tableScope [name] then b.popToRows.pop.enter .table else b)
    else if name = "table" then b.leaveRows
    else if tableIgnored.contains name then .done b
    else b.inTable token
  | _ => b.inTable token

/-- Closes a row and reads the token again. -/
def leaveRow (b : Builder) : Step :=
  if b.inScopeNamed tableScope ["tr"] then .again (b.popToRow.pop.enter .tableBody) else .done b

/-- A token in a row. -/
def inRow (b : Builder) (token : Token) : Step :=
  match token with
  | .opening tag =>
    if tag.name = "th" ∨ tag.name = "td" then
      .done ((b.popToRow.openTag tag).pushMarker.enter .cell)
    else if ["caption", "col", "colgroup", "tbody", "tfoot", "thead", "tr"].contains tag.name then
      b.leaveRow
    else b.inTable token
  | .closing name =>
    if name = "tr" then
      .done (if b.inScopeNamed tableScope ["tr"] then b.popToRow.pop.enter .tableBody else b)
    else if name = "table" then b.leaveRow
    else if rowGroups.contains name then
      if b.inScopeNamed tableScope [name] then b.leaveRow else .done b
    else if tableIgnored.contains name then .done b
    else b.inTable token
  | _ => b.inTable token

/-- Closes a cell. -/
def closeCell (b : Builder) : Builder :=
  (b.popThrough ["td", "th"]).clearFormatting.enter .row

/-- A token in a cell. -/
def inCell (b : Builder) (token : Token) : Step :=
  match token with
  | .opening tag =>
    if columnNames.contains tag.name then
      if b.inScopeNamed tableScope ["td", "th"] then .again b.closeCell else .done b
    else .done (b.body token)
  | .closing name =>
    if name = "td" ∨ name = "th" then
      .done
        (if b.inScopeNamed tableScope [name] then (b.popThrough [name]).clearFormatting.enter .row
        else b)
    else if ["body", "caption", "col", "colgroup", "html"].contains name then .done b
    else if ["table", "tbody", "tfoot", "thead", "tr"].contains name then
      if b.inScopeNamed tableScope [name] then .again b.closeCell else .done b
    else .done (b.body token)
  | _ => .done (b.body token)

/-! ## Choices -/

/-- Closes the open option. -/
def popOption (b : Builder) : Builder :=
  if b.currentIs ["option"] then b.pop else b

/-- Closes the open group of options. -/
def popGroup (b : Builder) : Builder :=
  if b.currentIs ["optgroup"] then b.pop else b

/-- Closes the list of a choice. -/
def closeSelect (b : Builder) : Builder :=
  (b.popThrough ["select"]).resetMode

/-- Closes a group of options, together with an option that is open in it. -/
def closeGroup (b : Builder) : Builder :=
  match b.openElements with
  | (_, e) :: (_, e') :: _ =>
    (if e.isNamed "option" && e'.isNamed "optgroup" then b.pop else b).popGroup
  | _ => b.popGroup

/-- A token in the list of a choice. -/
def inSelect (b : Builder) (token : Token) : Step :=
  let isOpen := b.inScopeNamed selectScope ["select"]
  match token with
  | .text t => .done (b.addText t)
  | .opening tag =>
    match tag.name with
    | "option" => .done (b.popOption.openTag tag)
    | "optgroup" => .done (b.popOption.popGroup.openTag tag)
    | "hr" => .done (b.popOption.popGroup.addEmpty tag)
    | "select" => .done (if isOpen then b.closeSelect else b)
    | "script" => .done (b.openText tag)
    | "template" => .done (b.openTemplate tag)
    | name =>
      if ["input", "keygen", "textarea"].contains name && isOpen then .again b.closeSelect
      else .done b
  | .closing name =>
    match name with
    | "optgroup" => .done b.closeGroup
    | "option" => .done b.popOption
    | "select" => .done (if isOpen then b.closeSelect else b)
    | "template" => .done b.closeTemplate
    | _ => .done b
  | _ => .done b

/-- A token in the list of a choice that stands in a table. -/
def inSelectInTable (b : Builder) (token : Token) : Step :=
  let parts := ["caption", "table", "tbody", "tfoot", "thead", "tr", "td", "th"]
  match token with
  | .opening tag => if parts.contains tag.name then .again b.closeSelect else b.inSelect token
  | .closing name =>
    if parts.contains name then
      if b.inScopeNamed tableScope [name] then .again b.closeSelect else .done b
    else b.inSelect token
  | _ => b.inSelect token

end Builder

end MarkedVerse.Html
