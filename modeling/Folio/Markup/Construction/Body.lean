import Folio.Markup.Construction.Adoption

namespace Folio
namespace Markup
namespace Construction

/-!
# Rules for the head and the body

What each token does in the head of a page, in its body, and in an element that holds only text.
Most other parts fall back on these rules.
-/

/-- Attribute names of drawings that are written with capitals. -/
def drawingAttrs : List String :=
  ["attributeName", "attributeType", "baseFrequency", "baseProfile", "calcMode", "clipPathUnits",
    "diffuseConstant", "edgeMode", "filterUnits", "glyphRef", "gradientTransform", "gradientUnits",
    "kernelMatrix", "kernelUnitLength", "keyPoints", "keySplines", "keyTimes", "lengthAdjust",
    "limitingConeAngle", "markerHeight", "markerUnits", "markerWidth", "maskContentUnits",
    "maskUnits", "numOctaves", "pathLength", "patternContentUnits", "patternTransform",
    "patternUnits", "pointsAtX", "pointsAtY", "pointsAtZ", "preserveAlpha", "preserveAspectRatio",
    "primitiveUnits", "refX", "refY", "repeatCount", "repeatDur", "requiredExtensions",
    "requiredFeatures", "specularConstant", "specularExponent", "spreadMethod", "startOffset",
    "stdDeviation", "stitchTiles", "surfaceScale", "systemLanguage", "tableValues", "targetX",
    "targetY", "textLength", "viewBox", "viewTarget", "xChannelSelector", "yChannelSelector",
    "zoomAndPan"]

/-- Element names of drawings that are written with capitals. -/
def drawingTags : List String :=
  ["altGlyph", "altGlyphDef", "altGlyphItem", "animateColor", "animateMotion", "animateTransform",
    "clipPath", "feBlend", "feColorMatrix", "feComponentTransfer", "feComposite",
    "feConvolveMatrix", "feDiffuseLighting", "feDisplacementMap", "feDistantLight", "feDropShadow",
    "feFlood", "feFuncA", "feFuncB", "feFuncG", "feFuncR", "feGaussianBlur", "feImage", "feMerge",
    "feMergeNode", "feMorphology", "feOffset", "fePointLight", "feSpecularLighting", "feSpotLight",
    "feTile", "feTurbulence", "foreignObject", "glyphRef", "linearGradient", "radialGradient",
    "textPath"]

/-- The spelling with capitals of a name in small letters, if a list holds one. -/
def respell (names : List String) (name : String) : String :=
  (names.find? fun n => n.toList.map Char.toLower == name.toList).getD name

/-- The name of an attribute outside the page vocabulary.  The declaration of a vocabulary has an
empty qualifier. -/
def foreignAttrName (vocabulary : Vocabulary) (name : String) : String :=
  if name = "xmlns" then ":xmlns"
  else match vocabulary with
    | .drawing => respell drawingAttrs name
    | .formula => if name = "definitionurl" then "definitionURL" else name
    | .page => name

/-- A tag with the names that its vocabulary writes with capitals. -/
def foreignTag (vocabulary : Vocabulary) (tag : Tag) : Tag :=
  { tag with
    name := if vocabulary = .drawing then respell drawingTags tag.name else tag.name
    attrs := Dict.ofList (tag.attrs.entries.map fun e => (foreignAttrName vocabulary e.1, e.2)) }

/-- Open an element of a drawing or a formula; it is left at once if its tag closes itself. -/
def insertForeign (vocabulary : Vocabulary) (tag : Tag) : Build Outcome := do
  let _ ← openForeign vocabulary (foreignTag vocabulary tag)
  if tag.selfClosing then close
  return .done

/-- The part that follows from the open elements, innermost first. -/
def modeOfStack (c : Construction) : List Nat → Mode
  | [] => .inBody
  | id :: outer =>
    let last := outer.isEmpty
    match c.name? id with
    | some (.page, n) =>
      if (n = "td" ∨ n = "th") ∧ !last then .inCell
      else if n = "tr" then .inRow
      else if n = "tbody" ∨ n = "thead" ∨ n = "tfoot" then .inTableBody
      else if n = "caption" then .inCaption
      else if n = "colgroup" then .inColumnGroup
      else if n = "table" then .inTable
      else if n = "template" then (c.templateModes.head?).getD .inBody
      else if n = "head" ∧ !last then .inHead
      else if n = "body" then .inBody
      else if n = "frameset" then .inFrameset
      else if n = "html" then (if c.head.isNone then .beforeHead else .afterHead)
      else modeOfStack c outer
    | _ => modeOfStack c outer

def resetMode : Build Unit := modify fun c => { c with mode := c.modeOfStack c.stack }

/-! ## Rules shared by several parts -/

def setTemplateMode (mode : Mode) : Build Unit := modify fun c =>
  { c with templateModes := mode :: c.templateModes.drop 1 }

/-- The root's start tag where the root is open already. -/
def rootAgain (tag : Tag) : Build Outcome := do
  let c ← get
  if !c.hasOpen "template" then
    match c.stack.getLast? with
    | some root => addMissingAttrs root tag.attrs
    | none => pure ()
  return .done

/-- Leave a template and everything opened in it. -/
def closeTemplate : Build Unit := do
  closeThrough ["template"]
  clearToMarker
  modify fun c => { c with templateModes := c.templateModes.drop 1 }
  resetMode

def endTemplate : Build Outcome := do
  if (← get).hasOpen "template" then
    closeImpliedThoroughly
    closeTemplate
  return .done

/-- The end of the page inside a template. -/
def templateAtEnd : Build Outcome := do
  if (← get).hasOpen "template" then
    closeTemplate
    return .again
  return .done

/-- The start tags that belong in the head wherever they stand. -/
def headTags : List String :=
  ["base", "basefont", "bgsound", "link", "meta", "noframes", "script", "style", "template",
    "title"]

def openHeadTag (tag : Tag) : Build Outcome := do
  if ["base", "basefont", "bgsound", "link", "meta"].contains tag.name then openVoid tag
  else if tag.name = "title" then openText tag (.escapable "title")
  else if tag.name = "script" then openText tag .script
  else if tag.name = "template" then
    openElement tag
    addMarker
    forbidFrames
    modify fun c =>
      { c with mode := .inTemplate, templateModes := .inTemplate :: c.templateModes }
  else openText tag (.verbatim tag.name)
  return .done

/-- A token that nothing in the head takes: the head is left. -/
def leaveHead : Build Outcome := do
  close
  setMode .afterHead
  return .again

def inHead (token : Token) : Build Outcome := do
  match token with
  | .blank s => insertText s; return .done
  | .comment s => insertComment s; return .done
  | .documentType _ => return .done
  | .startTag tag =>
    if tag.name = "html" then rootAgain tag
    else if headTags.contains tag.name ∨ tag.name = "noscript" then openHeadTag tag
    else if tag.name = "head" then return .done
    else leaveHead
  | .endTag tag =>
    if tag.name = "head" then
      close
      setMode .afterHead
      return .done
    else if tag.name = "template" then endTemplate
    else if ["body", "html", "br"].contains tag.name then leaveHead
    else return .done
  | _ => leaveHead

/-! ## The body -/

/-- Blocks that end a paragraph and have no other rule. -/
def blockTags : List String :=
  ["address", "article", "aside", "blockquote", "center", "details", "dialog", "dir", "div", "dl",
    "fieldset", "figcaption", "figure", "footer", "header", "hgroup", "main", "menu", "nav", "ol",
    "p", "search", "section", "summary", "ul"]

/-- Elements that leave through an end tag of their own and take all that is open in them along. -/
def closableTags : List String :=
  ["address", "article", "aside", "blockquote", "button", "center", "details", "dialog", "dir",
    "div", "dl", "fieldset", "figcaption", "figure", "footer", "header", "hgroup", "listing",
    "main", "menu", "nav", "ol", "pre", "search", "section", "select", "summary", "ul"]

def headingTags : List String := ["h1", "h2", "h3", "h4", "h5", "h6"]

def formattingTags : List String :=
  ["b", "big", "code", "em", "font", "i", "s", "small", "strike", "strong", "tt", "u"]

/-- Leave the list item that a new one ends, if no other block stands between. -/
def closeItem (names : List String) : Build Unit := do
  let c ← get
  let stops := fun id =>
    c.isNamed names id || (c.isSpecial id && !c.isNamed ["address", "div", "p"] id)
  match c.stack.find? stops with
  | some id =>
    match c.name? id with
    | some (.page, n) =>
      if names.contains n then
        closeImplied [n]
        closeThrough [n]
    | _ => pure ()
  | none => pure ()

/-- Open an element that takes part in reopening formatting. -/
def openInline (tag : Tag) : Build Unit := do
  reopenFormatting
  openElement tag

/-- Leave an element and what is opened in it, if it is in scope. -/
def endInScope (scope : Scope) (names implied through : List String) : Build Outcome := do
  if (← get).inScope scope names then
    closeImplied implied
    closeThrough through
  return .done

/-- Start tags in the body, first part: blocks. -/
def startBlock? (tag : Tag) : Build (Option Outcome) := do
  let c ← get
  let n := tag.name
  if blockTags.contains n then
    closeParagraphInScope
    openElement tag
    return some .done
  else if headingTags.contains n then
    closeParagraphInScope
    if (← get).currentIs headingTags then close
    openElement tag
    return some .done
  else if n = "pre" ∨ n = "listing" then
    closeParagraphInScope
    openElement tag
    modify fun c => { c with dropLineFeed := true, framesAllowed := false }
    return some .done
  else if n = "form" then
    if c.form.isNone ∨ c.hasOpen "template" then
      closeParagraphInScope
      let id ← openForeign .page tag
      if !c.hasOpen "template" then modify fun c => { c with form := some id }
    return some .done
  else if n = "li" then
    forbidFrames
    closeItem ["li"]
    closeParagraphInScope
    openElement tag
    return some .done
  else if n = "dd" ∨ n = "dt" then
    forbidFrames
    closeItem ["dd", "dt"]
    closeParagraphInScope
    openElement tag
    return some .done
  else if n = "plaintext" then
    closeParagraphInScope
    openElement tag
    modify fun c => { c with textMode := .rest }
    return some .done
  else if n = "hr" then
    closeParagraphInScope
    if (← get).inScope defaultScope ["select"] then closeImplied []
    openVoid tag
    forbidFrames
    return some .done
  else if n = "xmp" then
    closeParagraphInScope
    reopenFormatting
    forbidFrames
    openText tag (.verbatim "xmp")
    return some .done
  else if n = "table" then
    if !c.oldPage then closeParagraphInScope
    openElement tag
    forbidFrames
    setMode .inTable
    return some .done
  else return none

/-- Start tags in the body, second part: formatting and elements within lines. -/
def startInline? (tag : Tag) : Build (Option Outcome) := do
  let c ← get
  let n := tag.name
  if n = "a" then
    match (recentFormatting c.formatting).find? fun e => e.2.name == "a" with
    | some (id, _) =>
      endFormatting "a"
      modify fun c =>
        { c with formatting := forget id c.formatting, stack := c.stack.filter (· != id) }
    | none => pure ()
    reopenFormatting
    openFormatting tag
    return some .done
  else if formattingTags.contains n then
    reopenFormatting
    openFormatting tag
    return some .done
  else if n = "nobr" then
    reopenFormatting
    if (← get).inScope defaultScope ["nobr"] then
      endFormatting "nobr"
      reopenFormatting
    openFormatting tag
    return some .done
  else if n = "button" then
    if c.inScope defaultScope ["button"] then
      closeImplied []
      closeThrough ["button"]
    openInline tag
    forbidFrames
    return some .done
  else if ["applet", "marquee", "object"].contains n then
    openInline tag
    addMarker
    forbidFrames
    return some .done
  else if ["area", "br", "embed", "img", "keygen", "wbr"].contains n then
    reopenFormatting
    openVoid tag
    forbidFrames
    return some .done
  else if n = "input" then
    if c.inScope defaultScope ["select"] then closeThrough ["select"]
    reopenFormatting
    openVoid tag
    if (tag.attrs.get? "type").map (·.toList.map Char.toLower) != some "hidden".toList then
      forbidFrames
    return some .done
  else if ["param", "source", "track"].contains n then
    openVoid tag
    return some .done
  else if n = "textarea" then
    forbidFrames
    openText tag (.escapable "textarea")
    modify fun c => { c with dropLineFeed := true }
    return some .done
  else if n = "iframe" then
    forbidFrames
    openText tag (.verbatim n)
    return some .done
  else if n = "noembed" ∨ n = "noscript" then
    openText tag (.verbatim n)
    return some .done
  else return none

/-- Start tags in the body, third part: choices, ruby text, drawings and formulas, and all that
formats nothing. -/
def startOther (tag : Tag) : Build Outcome := do
  let c ← get
  let n := tag.name
  if n = "select" then
    if c.inScope defaultScope ["select"] then closeThrough ["select"]
    else
      openInline tag
      forbidFrames
    return .done
  else if n = "option" then
    if c.inScope defaultScope ["select"] then closeImplied ["optgroup"]
    else if c.currentIs ["option"] then close
    openInline tag
    return .done
  else if n = "optgroup" then
    if c.inScope defaultScope ["select"] then closeImplied []
    else if c.currentIs ["option"] then close
    openInline tag
    return .done
  else if n = "rb" ∨ n = "rtc" then
    if c.inScope defaultScope ["ruby"] then closeImplied []
    openElement tag
    return .done
  else if n = "rp" ∨ n = "rt" then
    if c.inScope defaultScope ["ruby"] then closeImplied ["rtc"]
    openElement tag
    return .done
  else if n = "math" then
    reopenFormatting
    insertForeign .formula tag
  else if n = "svg" then
    reopenFormatting
    insertForeign .drawing tag
  else if ["caption", "col", "colgroup", "frame", "head", "tbody", "td", "tfoot", "th", "thead",
      "tr"].contains n then return .done
  else
    openInline tag
    return .done

/-- The body's start tag where the body is open already. -/
def bodyAgain (tag : Tag) : Build Outcome := do
  let c ← get
  match c.stack.reverse with
  | _ :: second :: _ =>
    if c.isNamed ["body"] second ∧ !c.hasOpen "template" then
      forbidFrames
      addMissingAttrs second tag.attrs
  | _ => pure ()
  return .done

/-- A set of frames takes the place of a body that holds nothing yet. -/
def framesForBody (tag : Tag) : Build Outcome := do
  let c ← get
  match c.stack.reverse with
  | root :: second :: _ =>
    if c.isNamed ["body"] second ∧ c.framesAllowed then
      set { c with arena := c.arena.detach second, stack := [root] }
      openElement tag
      setMode .inFrameset
  | _ => pure ()
  return .done

def startInBody (tag : Tag) : Build Outcome := do
  if tag.name = "html" then rootAgain tag
  else if headTags.contains tag.name then openHeadTag tag
  else if tag.name = "body" then bodyAgain tag
  else if tag.name = "frameset" then framesForBody tag
  else
    let tag := if tag.name = "image" then { tag with name := "img" } else tag
    match ← startBlock? tag with
    | some r => return r
    | none =>
      match ← startInline? tag with
      | some r => return r
      | none => startOther tag

def endForm : Build Outcome := do
  let c ← get
  if c.hasOpen "template" then endInScope defaultScope ["form"] [] ["form"]
  else
    set { c with form := none }
    match c.form with
    | none => return .done
    | some id =>
      if c.scan defaultScope (· == id) c.stack then
        closeImplied []
        modify fun c => { c with stack := c.stack.filter (· != id) }
      return .done

def endInBody (tag : Tag) : Build Outcome := do
  let c ← get
  let n := tag.name
  if n = "template" then endTemplate
  else if n = "body" ∨ n = "html" then
    if c.inScope defaultScope ["body"] then
      setMode .afterBody
      return if n = "html" then .again else .done
    else return .done
  else if closableTags.contains n then endInScope defaultScope [n] [] [n]
  else if n = "form" then endForm
  else if n = "p" then
    if !c.inScope buttonScope ["p"] then openElement { name := "p" }
    closeParagraph
    return .done
  else if n = "li" then endInScope listItemScope ["li"] ["li"] ["li"]
  else if n = "dd" ∨ n = "dt" then endInScope defaultScope [n] [n] [n]
  else if headingTags.contains n then endInScope defaultScope headingTags [] headingTags
  else if n = "a" ∨ n = "nobr" ∨ formattingTags.contains n then
    endFormatting n
    return .done
  else if ["applet", "marquee", "object"].contains n then
    if c.inScope defaultScope [n] then
      closeImplied []
      closeThrough [n]
      clearToMarker
    return .done
  else if n = "br" then
    reopenFormatting
    openVoid { name := "br" }
    forbidFrames
    return .done
  else
    endOther n
    return .done

def inBody (token : Token) : Build Outcome := do
  match token with
  | .null => return .done
  | .blank s =>
    reopenFormatting
    insertText s
    return .done
  | .chars s =>
    reopenFormatting
    insertText s
    forbidFrames
    return .done
  | .comment s => insertComment s; return .done
  | .documentType _ => return .done
  | .startTag tag => startInBody tag
  | .endTag tag => endInBody tag
  | .endOfPage =>
    if (← get).templateModes.isEmpty then return .done else templateAtEnd

/-- Rules inside an element that holds only text. -/
def inText (token : Token) : Build Outcome := do
  let leave : Build Unit := do
    close
    modify fun c => { c with mode := c.savedMode, textMode := .markup }
  match token with
  | .blank s => insertText s; return .done
  | .chars s => insertText s; return .done
  | .endTag _ => leave; return .done
  | .endOfPage => leave; return .again
  | _ => return .done

end Construction
end Markup
end Folio
