import Folio.Markup.Arena
import Folio.Markup.Token

namespace Folio
namespace Markup

/-!
# The state of tree construction

Besides the tree itself, construction keeps the elements that are open, innermost first; the
formatting elements that are to be reopened, newest first and cut by markers where a cell, a caption
or a template begins; and what part of the page it is in.  This module holds the state and the steps
that the rules for all parts share: where a node goes, which elements are in scope, and how elements
are opened and closed.
-/

/-- The part of the page that construction is in. -/
inductive Mode where
  | initial
  | beforeRoot
  | beforeHead
  | inHead
  | afterHead
  | inBody
  | inText
  | inTable
  | inTableText
  | inCaption
  | inColumnGroup
  | inTableBody
  | inRow
  | inCell
  | inTemplate
  | afterBody
  | inFrameset
  | afterFrameset
  | afterPage
  | afterFramesetPage
  deriving DecidableEq

/-- A formatting element that is reopened where text continues, or a marker that ends the search for
such elements. -/
inductive FormatEntry where
  | marker
  | element (id : Nat) (tag : Tag)

structure Construction where
  arena : Arena := Arena.start
  /-- The open elements, innermost first. -/
  stack : List Nat := []
  /-- The formatting elements, newest first. -/
  formatting : List FormatEntry := []
  mode : Mode := .initial
  /-- The part to return to after a text. -/
  savedMode : Mode := .initial
  templateModes : List Mode := []
  /-- The templates, each with the item that holds its contents. -/
  templates : List (Nat × Nat) := []
  head : Option Nat := none
  form : Option Nat := none
  /-- Whether the body may still be replaced by a set of frames. -/
  framesAllowed : Bool := true
  /-- Whether the page is read as old pages were. -/
  oldPage : Bool := false
  /-- Whether nodes for a table go in front of it. -/
  fostering : Bool := false
  /-- The text read in a table and not placed yet, last run first. -/
  pending : List Token := []
  /-- Whether a line feed that comes next is dropped. -/
  dropLineFeed : Bool := false
  /-- How the text that comes next is read. -/
  textMode : TextMode := .markup

abbrev Build := StateM Construction

/-- What remains to be done with a token after a step. -/
inductive Outcome where
  /-- Nothing. -/
  | done
  /-- It is looked at again, by the rules that now apply. -/
  | again
  /-- It is looked at again, by the rules for the part of the page and not by those for drawings and
  formulas. -/
  | againInPage
  deriving DecidableEq

namespace Construction

def name? (c : Construction) (id : Nat) : Option (Vocabulary × String) := c.arena.name? id

/-- Whether an item is an element of the page vocabulary with one of these names. -/
def isNamed (c : Construction) (names : List String) (id : Nat) : Bool :=
  match c.name? id with
  | some (.page, n) => names.contains n
  | _ => false

/-- Whether the innermost open element has one of these names. -/
def currentIs (c : Construction) (names : List String) : Bool := c.stack.head?.any (c.isNamed names)

def hasOpen (c : Construction) (name : String) : Bool := c.stack.any (c.isNamed [name])

/-- Where a search for an element in scope ends. -/
abbrev Scope := Vocabulary × String → Bool

def defaultScope : Scope
  | (.page, n) =>
    ["applet", "caption", "html", "table", "td", "th", "marquee", "object", "select",
      "template"].contains n
  | (.formula, n) => ["mi", "mo", "mn", "ms", "mtext", "annotation-xml"].contains n
  | (.drawing, n) => ["foreignObject", "desc", "title"].contains n

/-- A scope that more elements of the page vocabulary end. -/
def Scope.widen (scope : Scope) (names : List String) : Scope :=
  fun e => (e.1 == .page && names.contains e.2) || scope e

def listItemScope : Scope := Scope.widen defaultScope ["ol", "ul"]

def buttonScope : Scope := Scope.widen defaultScope ["button"]

def tableScope : Scope := fun e => e.1 == .page && ["html", "table", "template"].contains e.2

/-- Whether an element that passes a test is open before the scope ends. -/
def scan (c : Construction) (scope : Scope) (p : Nat → Bool) : List Nat → Bool
  | [] => false
  | id :: rest => p id || (!(c.name? id).any scope && scan c scope p rest)

def inScope (c : Construction) (scope : Scope) (names : List String) : Bool :=
  c.scan scope (c.isNamed names) c.stack

inductive Place where
  | within (parent : Nat)
  | before (sibling : Nat)

/-- The elements that nodes misplaced in a table are moved out of. -/
def tableParts : List String := ["table", "tbody", "tfoot", "thead", "tr"]

/-- Nodes for a template go into its contents. -/
def insideOf (c : Construction) (id : Nat) : Place :=
  .within ((c.templates.lookup id).getD id)

/-- The place for a node that the innermost open element, or `target`, would hold.  What a table may
not hold goes in front of the table, or into a template opened inside it. -/
def placeFor (c : Construction) (target : Nat) : Place :=
  if c.fostering ∧ c.isNamed tableParts target then
    match c.stack.dropWhile (fun id => !c.isNamed ["table", "template"] id) with
    | [] => c.insideOf (c.stack.getLast?.getD 0)
    | id :: outer =>
      if c.isNamed ["template"] id then c.insideOf id
      else match c.arena.parent? id with
        | some _ => .before id
        | none => c.insideOf (outer.head?.getD 0)
  else c.insideOf target

def place (c : Construction) : Place := c.placeFor (c.stack.head?.getD 0)

def put (a : Arena) (id : Nat) : Place → Arena
  | .within parent => a.append parent id
  | .before sibling => a.insertBefore sibling id

/-! ## Steps -/

def setMode (mode : Mode) : Build Unit := modify fun c => { c with mode }

def insertText (text : String) : Build Unit := modify fun c =>
  { c with
    arena := match c.place with
      | .within parent => if parent = 0 then c.arena else c.arena.appendText parent text
      | .before sibling => c.arena.insertTextBefore sibling text }

def insertComment (text : String) : Build Unit := modify fun c =>
  let (a, id) := c.arena.add (.comment text)
  { c with arena := put a id c.place }

/-- A comment outside the open elements. -/
def insertCommentIn (parent : Nat) (text : String) : Build Unit := modify fun c =>
  let (a, id) := c.arena.add (.comment text)
  { c with arena := a.append parent id }

/-- Make an element that hangs nowhere yet; a template gets an item for its contents. -/
def makeElement (vocabulary : Vocabulary) (tag : Tag) : Build Nat := do
  let c ← get
  let (a, id) := c.arena.add (.element vocabulary tag.name tag.attrs)
  if vocabulary = .page ∧ tag.name = "template" then
    let (a, contents) := a.add .templateContents
    set { c with arena := a, templates := (id, contents) :: c.templates }
  else set { c with arena := a }
  return id

/-- Open an element: make it, put it in its place, and enter it. -/
def openForeign (vocabulary : Vocabulary) (tag : Tag) : Build Nat := do
  let place := (← get).place
  let id ← makeElement vocabulary tag
  modify fun c => { c with arena := put c.arena id place, stack := id :: c.stack }
  return id

def openElement (tag : Tag) : Build Unit := do let _ ← openForeign .page tag

/-- Leave the innermost open element. -/
def close : Build Unit := modify fun c => { c with stack := c.stack.drop 1 }

/-- Open an element that holds nothing. -/
def openVoid (tag : Tag) : Build Unit := do
  openElement tag
  close

/-- Leave open elements up to and with the first that has one of these names. -/
def closeThrough (names : List String) : Build Unit := modify fun c =>
  { c with stack := (c.stack.dropWhile fun id => !c.isNamed names id).drop 1 }

/-- Leave open elements down to the first that has one of these names. -/
def closeDownTo (names : List String) : Build Unit := modify fun c =>
  { c with stack := c.stack.dropWhile fun id => !c.isNamed names id }

/-- The elements whose end tags may be left out. -/
def impliedEnds : List String :=
  ["dd", "dt", "li", "optgroup", "option", "p", "rb", "rp", "rt", "rtc"]

/-- Leave the elements whose end tags may be left out, those named apart. -/
def closeImplied (except : List String) : Build Unit := modify fun c =>
  { c with
    stack := c.stack.dropWhile fun id => c.isNamed (impliedEnds.filter (!except.contains ·)) id }

def closeImpliedThoroughly : Build Unit := modify fun c =>
  { c with
    stack := c.stack.dropWhile fun id =>
      c.isNamed (impliedEnds ++ tableEnds) id }
where
  tableEnds : List String :=
    ["caption", "colgroup", "tbody", "td", "tfoot", "th", "thead", "tr"]

/-- Leave a paragraph and everything opened in it. -/
def closeParagraph : Build Unit := do
  closeImplied ["p"]
  closeThrough ["p"]

/-- Leave the paragraph that a block may not stand in. -/
def closeParagraphInScope : Build Unit := do
  if (← get).inScope buttonScope ["p"] then closeParagraph

def addMarker : Build Unit := modify fun c => { c with formatting := .marker :: c.formatting }

/-- Forget the formatting elements up to and with the newest marker. -/
def clearToMarker : Build Unit := modify fun c =>
  { c with
    formatting := (c.formatting.dropWhile fun
      | .marker => false
      | .element _ _ => true).drop 1 }

def forbidFrames : Build Unit := modify fun c => { c with framesAllowed := false }

/-- Open an element whose text is read in another way, and read up to its end tag. -/
def openText (tag : Tag) (textMode : TextMode) : Build Unit := do
  openElement tag
  modify fun c => { c with textMode, savedMode := c.mode, mode := .inText }

def addMissingAttrs (id : Nat) (attrs : Dict String) : Build Unit := modify fun c =>
  { c with
    arena := c.arena.modify id fun i =>
      match i.kind with
      | .element v n old =>
        { i with kind := .element v n (attrs.entries.foldl (fun d e => d.insertNew e.1 e.2) old) }
      | _ => i }

/-- The formatting elements since the newest marker, newest first. -/
def recentFormatting : List FormatEntry → List (Nat × Tag)
  | .element id tag :: rest => (id, tag) :: recentFormatting rest
  | _ => []

def forget (id : Nat) (entries : List FormatEntry) : List FormatEntry :=
  entries.filter fun
    | .element i _ => i != id
    | .marker => true

/-- Whether two elements were written by the same tag, whatever the order of its attributes. -/
def sameTag (a b : Tag) : Bool :=
  a.name == b.name && a.attrs.entries.length == b.attrs.entries.length &&
    a.attrs.entries.all fun e => b.attrs.get? e.1 == some e.2

/-- Remember a formatting element; of four alike the oldest is forgotten. -/
def remember (id : Nat) (tag : Tag) : Build Unit := modify fun c =>
  let alike := (recentFormatting c.formatting).filter fun e => sameTag e.2 tag
  let entries := match alike[2]? with
    | some oldest => forget oldest.1 c.formatting
    | none => c.formatting
  { c with formatting := .element id tag :: entries }

/-- The formatting elements that were left and are to be reopened, newest first, and the others. -/
def splitLeft (c : Construction) : List FormatEntry → List Tag × List FormatEntry
  | .element id tag :: rest =>
    if id ∈ c.stack then ([], .element id tag :: rest)
    else
      let r := splitLeft c rest
      (tag :: r.1, r.2)
  | entries => ([], entries)

/-- Reopen the formatting elements that were left, oldest first. -/
def reopenFormatting : Build Unit := do
  let c ← get
  let (left, kept) := c.splitLeft c.formatting
  set { c with formatting := kept }
  left.reverse.forM fun tag => do
    let id ← openForeign .page tag
    modify fun c => { c with formatting := .element id tag :: c.formatting }

def openFormatting (tag : Tag) : Build Unit := do
  let id ← openForeign .page tag
  remember id tag

end Construction

end Markup
end Folio
