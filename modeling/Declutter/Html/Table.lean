import Declutter.Html.Body

namespace Declutter.Html.Builder

/-- Handles a token as in a body, with what does not belong into a table put in front of it. -/
def inBodyFostered (b : Builder) (token : Token) : Outcome :=
  match { b with fostering := true }.inBody token with
  | .done b => .done { b with fostering := false }
  | .again b => .again { b with fostering := false }

def popToTable (b : Builder) : Builder :=
  b.popTo endsTableScope

def popToTableBody (b : Builder) : Builder :=
  b.popTo (isAmong ["tbody", "tfoot", "thead", "template", "html"])

def popToRow (b : Builder) : Builder :=
  b.popTo (isAmong ["tr", "template", "html"])

/-- The tags of a head that stand directly in a table. -/
def isTableHeadTag : Token → Bool
  | .opening tag => ["style", "script", "template"].any fun name => name.toList == tag.name
  | .closing name => name == "template".toList
  | _ => false

def inTable (b : Builder) (token : Token) : Outcome :=
  if isTableHeadTag token then .done ((b.headTag? token).getD b)
  else match token with
    | .doctype _ => .done b
    | .blanks _ | .chars _ | .nul =>
      if b.currentIs tableNames then
        .again { b with returnMode := b.mode, mode := .inTableText, tableText := [] }
      else b.inBodyFostered token
    | .comment t => .done (b.insertComment t)
    | .opening tag =>
      match String.ofList tag.name with
      | "caption" => .done ((b.popToTable.addMarker.insert tag.element).inMode .inCaption)
      | "colgroup" => .done ((b.popToTable.insert tag.element).inMode .inColumnGroup)
      | "col" => .again ((b.popToTable.insertNamed "colgroup").inMode .inColumnGroup)
      | "tbody" | "tfoot" | "thead" =>
        .done ((b.popToTable.insert tag.element).inMode .inTableBody)
      | "td" | "th" | "tr" => .again ((b.popToTable.insertNamed "tbody").inMode .inTableBody)
      | "table" =>
        if b.hasInScope endsTableScope ["table"] then
          .again (b.popThroughNamed ["table"]).resetMode
        else .done b
      | "input" =>
        if (tag.attribute? "type").any (Text.sameIgnoringCase "hidden".toList) then
          .done (b.insertClosed tag.element)
        else b.inBodyFostered token
      | "form" =>
        if b.form.isSome ∨ b.hasOpen "template" then .done b
        else .done { b.insertClosed tag.element with form := some b.draft.next }
      | _ => b.inBodyFostered token
    | .closing name =>
      match String.ofList name with
      | "table" =>
        .done (if b.hasInScope endsTableScope ["table"] then
          (b.popThroughNamed ["table"]).resetMode else b)
      | "body" | "caption" | "col" | "colgroup" | "html" | "tbody" | "td" | "tfoot" | "th"
      | "thead" | "tr" => .done b
      | _ => b.inBodyFostered token
    | .finish => b.finish

/-- The text collected in a table: blanks stay, anything else goes in front of the table. -/
def flushTableText (b : Builder) : Builder :=
  let tokens := b.tableText.reverse
  let b := { b with tableText := [], mode := b.returnMode }
  let blank := tokens.all fun token => match token with
    | .blanks _ => true
    | _ => false
  tokens.foldl (fun b token =>
    match token with
    | .blanks t =>
      if blank then b.insertText t
      else match b.inBodyFostered token with
        | .done b | .again b => b
    | token =>
      match b.inBodyFostered token with
      | .done b | .again b => b) b

def inTableText (b : Builder) (token : Token) : Outcome :=
  match token with
  | .nul => .done b
  | .blanks _ | .chars _ => .done { b with tableText := token :: b.tableText }
  | _ => .again b.flushTableText

/-- The tags that start another part of a table. -/
def startsTablePart (name : Text) : Bool :=
  ["caption", "col", "colgroup", "tbody", "td", "tfoot", "th", "thead", "tr"].any fun n =>
    n.toList == name

def inCaption (b : Builder) (token : Token) : Outcome :=
  let close (after : Builder → Outcome) : Outcome :=
    if b.hasInScope endsTableScope ["caption"] then
      after ((b.closeAllImplied.popThroughNamed ["caption"]).clearToMarker.inMode .inTable)
    else .done b
  match token with
  | .opening tag => if startsTablePart tag.name then close .again else b.inBody token
  | .closing name =>
    match String.ofList name with
    | "caption" => close .done
    | "table" => close .again
    | "body" | "col" | "colgroup" | "html" | "tbody" | "td" | "tfoot" | "th" | "thead" | "tr" =>
      .done b
    | _ => b.inBody token
  | _ => b.inBody token

def inColumnGroup (b : Builder) (token : Token) : Outcome :=
  let otherwise :=
    if b.currentIs ["colgroup"] then Outcome.again (b.pop.inMode .inTable) else .done b
  match token with
  | .doctype _ => .done b
  | .blanks t => .done (b.insertText t)
  | .comment t => .done (b.insertComment t)
  | .opening tag =>
    match String.ofList tag.name with
    | "html" => .done (b.mergeRoot tag)
    | "col" => .done (b.insertClosed tag.element)
    | "template" => .done (b.startTemplate tag)
    | _ => otherwise
  | .closing name =>
    match String.ofList name with
    | "colgroup" => .done (if b.currentIs ["colgroup"] then b.pop.inMode .inTable else b)
    | "col" => .done b
    | "template" => .done b.endTemplate
    | _ => otherwise
  | .finish => b.finish
  | _ => otherwise

def inTableBody (b : Builder) (token : Token) : Outcome :=
  let close : Outcome :=
    if b.hasInScope endsTableScope ["tbody", "thead", "tfoot"] then
      .again (b.popToTableBody.pop.inMode .inTable)
    else .done b
  match token with
  | .opening tag =>
    match String.ofList tag.name with
    | "tr" => .done ((b.popToTableBody.insert tag.element).inMode .inRow)
    | "th" | "td" => .again ((b.popToTableBody.insertNamed "tr").inMode .inRow)
    | "caption" | "col" | "colgroup" | "tbody" | "tfoot" | "thead" => close
    | _ => b.inTable token
  | .closing name =>
    match String.ofList name with
    | "tbody" | "tfoot" | "thead" =>
      .done (if inScopeWhere endsTableScope (·.name == htmlName name) b.opened then
        b.popToTableBody.pop.inMode .inTable else b)
    | "table" => close
    | "body" | "caption" | "col" | "colgroup" | "html" | "td" | "th" | "tr" => .done b
    | _ => b.inTable token
  | _ => b.inTable token

def inRow (b : Builder) (token : Token) : Outcome :=
  let close (after : Builder → Outcome) : Outcome :=
    if b.hasInScope endsTableScope ["tr"] then after (b.popToRow.pop.inMode .inTableBody)
    else .done b
  match token with
  | .opening tag =>
    match String.ofList tag.name with
    | "th" | "td" => .done ((b.popToRow.insert tag.element).addMarker.inMode .inCell)
    | "caption" | "col" | "colgroup" | "tbody" | "tfoot" | "thead" | "tr" => close .again
    | _ => b.inTable token
  | .closing name =>
    match String.ofList name with
    | "tr" => close .done
    | "table" => close .again
    | "tbody" | "tfoot" | "thead" =>
      if inScopeWhere endsTableScope (·.name == htmlName name) b.opened then close .again
      else .done b
    | "body" | "caption" | "col" | "colgroup" | "html" | "td" | "th" => .done b
    | _ => b.inTable token
  | _ => b.inTable token

def closeCell (b : Builder) : Builder :=
  (b.closeAllImplied.popThroughNamed ["td", "th"]).clearToMarker.inMode .inRow

def inCell (b : Builder) (token : Token) : Outcome :=
  match token with
  | .opening tag =>
    if startsTablePart tag.name then
      if b.hasInScope endsTableScope ["td", "th"] then .again b.closeCell else .done b
    else b.inBody token
  | .closing name =>
    match String.ofList name with
    | "td" | "th" =>
      .done (if inScopeWhere endsTableScope (·.name == htmlName name) b.opened then
        (b.closeAllImplied.popThrough (· = htmlName name)).clearToMarker.inMode .inRow else b)
    | "body" | "caption" | "col" | "colgroup" | "html" => .done b
    | "table" | "tbody" | "tfoot" | "thead" | "tr" =>
      if inScopeWhere endsTableScope (·.name == htmlName name) b.opened then .again b.closeCell
      else .done b
    | _ => b.inBody token
  | _ => b.inBody token

def endSelect (b : Builder) : Builder :=
  (b.popThroughNamed ["select"]).resetMode

def popOption (b : Builder) : Builder :=
  if b.currentIs ["option"] then b.pop else b

def popGroup (b : Builder) : Builder :=
  if b.currentIs ["optgroup"] then b.pop else b

def inSelect (b : Builder) (token : Token) : Outcome :=
  match token with
  | .doctype _ | .nul => .done b
  | .blanks t | .chars t => .done (b.insertText t)
  | .comment t => .done (b.insertComment t)
  | .opening tag =>
    match String.ofList tag.name with
    | "html" => .done (b.mergeRoot tag)
    | "option" => .done (b.popOption.insert tag.element)
    | "optgroup" => .done (b.popOption.popGroup.insert tag.element)
    | "hr" => .done (b.popOption.popGroup.insertClosed tag.element)
    | "select" => .done (if b.hasInScope endsSelectScope ["select"] then b.endSelect else b)
    | "input" | "keygen" | "textarea" =>
      if b.hasInScope endsSelectScope ["select"] then .again b.endSelect else .done b
    | "script" | "template" => .done ((b.headTag? token).getD b)
    | _ => .done b
  | .closing name =>
    match String.ofList name with
    | "optgroup" =>
      let inGroup := match b.opened with
        | e :: o :: _ => isAmong ["option"] e.name && isAmong ["optgroup"] o.name
        | _ => false
      .done (if inGroup then b.pop else b).popGroup
    | "option" => .done b.popOption
    | "select" => .done (if b.hasInScope endsSelectScope ["select"] then b.endSelect else b)
    | "template" => .done b.endTemplate
    | _ => .done b
  | .finish => b.finish

/-- The tags that end a list of options in a table. -/
def endsSelectInTable (name : Text) : Bool :=
  ["caption", "table", "tbody", "tfoot", "thead", "tr", "td", "th"].any fun n => n.toList == name

def inSelectInTable (b : Builder) (token : Token) : Outcome :=
  match token with
  | .opening tag => if endsSelectInTable tag.name then .again b.endSelect else b.inSelect token
  | .closing name =>
    if endsSelectInTable name then
      if inScopeWhere endsTableScope (·.name == htmlName name) b.opened then .again b.endSelect
      else .done b
    else b.inSelect token
  | _ => b.inSelect token

def inTemplate (b : Builder) (token : Token) : Outcome :=
  let switch (mode : Mode) : Outcome :=
    .again { b with templateModes := mode :: b.templateModes.drop 1, mode }
  match token with
  | .opening tag =>
    match String.ofList tag.name with
    | "base" | "basefont" | "bgsound" | "link" | "meta" | "noframes" | "script" | "style"
    | "template" | "title" => .done ((b.headTag? token).getD b)
    | "caption" | "colgroup" | "tbody" | "tfoot" | "thead" => switch .inTable
    | "col" => switch .inColumnGroup
    | "tr" => switch .inTableBody
    | "td" | "th" => switch .inRow
    | _ => switch .inBody
  | .closing name => .done (if name = "template".toList then b.endTemplate else b)
  | .finish => b.finishTemplate
  | _ => b.inBody token

end Declutter.Html.Builder
