import Folio.Markup.Construction.Body

namespace Folio
namespace Markup
namespace Construction

/-!
# Rules for tables and templates

A table opens the row groups, rows and column groups that its cells and columns lack.  What may not
stand in a table is handled by the rules of the body and placed in front of the table.  A template
takes on the part that its first content asks for.
-/

def clearToTable : Build Unit := closeDownTo ["table", "template", "html"]

def clearToGroup : Build Unit := closeDownTo ["tbody", "tfoot", "thead", "template", "html"]

def clearToRow : Build Unit := closeDownTo ["tr", "template", "html"]

/-- The rules of the body, with what they place put in front of the table. -/
def inFrontOfTable (token : Token) : Build Outcome := do
  modify fun c => { c with fostering := true }
  let r ← inBody token
  modify fun c => { c with fostering := false }
  return r

/-- Leave the table, if one is in scope. -/
def endTable (r : Outcome) : Build Outcome := do
  if (← get).inScope tableScope ["table"] then
    closeThrough ["table"]
    resetMode
    return r
  return .done

def inTable (token : Token) : Build Outcome := do
  match token with
  | .blank _ | .chars _ | .null =>
    let c ← get
    if c.currentIs ["table", "tbody", "template", "tfoot", "thead", "tr"] then
      set { c with pending := [], savedMode := c.mode, mode := .inTableText }
      return .again
    else inFrontOfTable token
  | .comment s => insertComment s; return .done
  | .documentType _ => return .done
  | .startTag tag =>
    let n := tag.name
    if n = "caption" then
      clearToTable
      addMarker
      openElement tag
      setMode .inCaption
      return .done
    else if n = "colgroup" then
      clearToTable
      openElement tag
      setMode .inColumnGroup
      return .done
    else if n = "col" then
      clearToTable
      openElement { name := "colgroup" }
      setMode .inColumnGroup
      return .again
    else if ["tbody", "tfoot", "thead"].contains n then
      clearToTable
      openElement tag
      setMode .inTableBody
      return .done
    else if ["td", "th", "tr"].contains n then
      clearToTable
      openElement { name := "tbody" }
      setMode .inTableBody
      return .again
    else if n = "table" then endTable .again
    else if ["style", "script", "template"].contains n then inHead token
    else if n = "input" ∧
        (tag.attrs.get? "type").map (·.toList.map Char.toLower) = some "hidden".toList then
      openVoid tag
      return .done
    else if n = "form" then
      let c ← get
      if !c.hasOpen "template" ∧ c.form.isNone then
        let id ← openForeign .page tag
        modify fun c => { c with form := some id }
        close
      return .done
    else inFrontOfTable token
  | .endTag tag =>
    if tag.name = "table" then endTable .done
    else if ["body", "caption", "col", "colgroup", "html", "tbody", "td", "tfoot", "th", "thead",
        "tr"].contains tag.name then return .done
    else if tag.name = "template" then inHead token
    else inFrontOfTable token
  | .endOfPage => inBody token

/-- Place the text that was read in a table: where it stands if it is white space, and in front of
the table otherwise. -/
def placePending : Build Unit := do
  let runs := (← get).pending.reverse
  let blank := runs.all fun
    | .blank _ => true
    | _ => false
  runs.forM fun run =>
    match run with
    | .blank s => if blank then insertText s else do let _ ← inFrontOfTable run
    | _ => do let _ ← inFrontOfTable run
  modify fun c => { c with pending := [], mode := c.savedMode }

/-- Rules for the text in a table, which is collected first. -/
def inTableText (token : Token) : Build Outcome := do
  match token with
  | .null => return .done
  | .blank _ | .chars _ =>
    modify fun c => { c with pending := token :: c.pending }
    return .done
  | _ =>
    placePending
    return .again

/-- Leave the caption, if one is in scope. -/
def endCaption (r : Outcome) : Build Outcome := do
  if (← get).inScope tableScope ["caption"] then
    closeImplied []
    closeThrough ["caption"]
    clearToMarker
    setMode .inTable
    return r
  return .done

def inCaption (token : Token) : Build Outcome := do
  match token with
  | .startTag tag =>
    if ["caption", "col", "colgroup", "tbody", "td", "tfoot", "th", "thead", "tr"].contains tag.name
    then endCaption .again
    else inBody token
  | .endTag tag =>
    if tag.name = "caption" then endCaption .done
    else if tag.name = "table" then endCaption .again
    else if ["body", "col", "colgroup", "html", "tbody", "td", "tfoot", "th", "thead",
        "tr"].contains tag.name then return .done
    else inBody token
  | _ => inBody token

/-- Leave the column group, if it is the innermost open element. -/
def endColumnGroup (r : Outcome) : Build Outcome := do
  if (← get).currentIs ["colgroup"] then
    close
    setMode .inTable
    return r
  return .done

def inColumnGroup (token : Token) : Build Outcome := do
  match token with
  | .blank s => insertText s; return .done
  | .comment s => insertComment s; return .done
  | .documentType _ => return .done
  | .startTag tag =>
    if tag.name = "html" then inBody token
    else if tag.name = "col" then
      openVoid tag
      return .done
    else if tag.name = "template" then inHead token
    else endColumnGroup .again
  | .endTag tag =>
    if tag.name = "colgroup" then endColumnGroup .done
    else if tag.name = "col" then return .done
    else if tag.name = "template" then inHead token
    else endColumnGroup .again
  | .endOfPage => inBody token
  | _ => endColumnGroup .again

/-- Leave the group of rows, if one is in scope. -/
def leaveGroup : Build Outcome := do
  if (← get).inScope tableScope ["tbody", "thead", "tfoot"] then
    clearToGroup
    close
    setMode .inTable
    return .again
  return .done

def inTableBody (token : Token) : Build Outcome := do
  match token with
  | .startTag tag =>
    let n := tag.name
    if n = "tr" then
      clearToGroup
      openElement tag
      setMode .inRow
      return .done
    else if n = "th" ∨ n = "td" then
      clearToGroup
      openElement { name := "tr" }
      setMode .inRow
      return .again
    else if ["caption", "col", "colgroup", "tbody", "tfoot", "thead"].contains n then leaveGroup
    else inTable token
  | .endTag tag =>
    let n := tag.name
    if ["tbody", "tfoot", "thead"].contains n then
      if (← get).inScope tableScope [n] then
        clearToGroup
        close
        setMode .inTable
      return .done
    else if n = "table" then leaveGroup
    else if ["body", "caption", "col", "colgroup", "html", "td", "th", "tr"].contains n then
      return .done
    else inTable token
  | _ => inTable token

def leaveRow (r : Outcome) : Build Outcome := do
  if (← get).inScope tableScope ["tr"] then
    clearToRow
    close
    setMode .inTableBody
    return r
  return .done

def inRow (token : Token) : Build Outcome := do
  match token with
  | .startTag tag =>
    let n := tag.name
    if n = "th" ∨ n = "td" then
      clearToRow
      openElement tag
      setMode .inCell
      addMarker
      return .done
    else if ["caption", "col", "colgroup", "tbody", "tfoot", "thead", "tr"].contains n then
      leaveRow .again
    else inTable token
  | .endTag tag =>
    let n := tag.name
    if n = "tr" then leaveRow .done
    else if n = "table" then leaveRow .again
    else if ["tbody", "tfoot", "thead"].contains n then
      if (← get).inScope tableScope [n] then leaveRow .again else return .done
    else if ["body", "caption", "col", "colgroup", "html", "td", "th"].contains n then return .done
    else inTable token
  | _ => inTable token

def closeCell : Build Unit := do
  closeImplied []
  closeThrough ["td", "th"]
  clearToMarker
  setMode .inRow

def inCell (token : Token) : Build Outcome := do
  match token with
  | .startTag tag =>
    if ["caption", "col", "colgroup", "tbody", "td", "tfoot", "th", "thead", "tr"].contains tag.name
    then
      if (← get).inScope tableScope ["td", "th"] then
        closeCell
        return .again
      return .done
    else inBody token
  | .endTag tag =>
    let n := tag.name
    if n = "td" ∨ n = "th" then
      if (← get).inScope tableScope [n] then
        closeImplied []
        closeThrough [n]
        clearToMarker
        setMode .inRow
      return .done
    else if ["body", "caption", "col", "colgroup", "html"].contains n then return .done
    else if ["table", "tbody", "tfoot", "thead", "tr"].contains n then
      if (← get).inScope tableScope [n] then
        closeCell
        return .again
      return .done
    else inBody token
  | _ => inBody token

/-- The part that a template takes on for a start tag. -/
def templatePart (name : String) : Mode :=
  if ["caption", "colgroup", "tbody", "tfoot", "thead"].contains name then .inTable
  else if name = "col" then .inColumnGroup
  else if name = "tr" then .inTableBody
  else if name = "td" ∨ name = "th" then .inRow
  else .inBody

/-- Rules inside a template whose part is not settled. -/
def inTemplate (token : Token) : Build Outcome := do
  match token with
  | .startTag tag =>
    if headTags.contains tag.name then inHead token
    else
      let part := templatePart tag.name
      setTemplateMode part
      setMode part
      return .again
  | .endTag tag => if tag.name = "template" then inHead token else return .done
  | .endOfPage => templateAtEnd
  | _ => inBody token

end Construction
end Markup
end Folio
