import Folio.Markup.Construction.State

namespace Folio
namespace Markup
namespace Construction

/-!
# Misnested formatting

The end tag of a formatting element may come while other elements opened inside it are still open.
The formatting element is then taken apart: the blocks inside it are moved out, and each gets a copy
of the formatting for its own content.
-/

/-- The elements that are blocks of their own and that formatting is taken apart at. -/
def specialTags : List String :=
  ["address", "applet", "area", "article", "aside", "base", "basefont", "bgsound", "blockquote",
    "body", "br", "button", "caption", "center", "col", "colgroup", "dd", "details", "dir", "div",
    "dl", "dt", "embed", "fieldset", "figcaption", "figure", "footer", "form", "frame", "frameset",
    "h1", "h2", "h3", "h4", "h5", "h6", "head", "header", "hgroup", "hr", "html", "iframe", "img",
    "input", "keygen", "li", "link", "listing", "main", "marquee", "menu", "meta", "nav", "noembed",
    "noframes", "noscript", "object", "ol", "p", "param", "plaintext", "pre", "script", "search",
    "section", "select", "source", "style", "summary", "table", "tbody", "td", "template",
    "textarea", "tfoot", "th", "thead", "title", "tr", "track", "ul", "wbr", "xmp"]

def isSpecial (c : Construction) (id : Nat) : Bool :=
  match c.name? id with
  | some (.page, n) => specialTags.contains n
  | some (.formula, n) => ["mi", "mo", "mn", "ms", "mtext", "annotation-xml"].contains n
  | some (.drawing, n) => ["foreignObject", "desc", "title"].contains n
  | none => false

/-- Leave the element that an end tag without a rule of its own names, if no block stands in the
way. -/
def endOther (name : String) : Build Unit := do
  let c ← get
  match c.stack.find? fun id => c.isNamed [name] id || c.isSpecial id with
  | none => pure ()
  | some id =>
    if c.isNamed [name] id then
      closeImplied [name]
      modify fun c => { c with stack := (c.stack.dropWhile (· != id)).drop 1 }

/-- The tag that a remembered formatting element was written by. -/
def remembered? (id : Nat) : List FormatEntry → Option Tag
  | [] => none
  | .element i tag :: rest => if i = id then some tag else remembered? id rest
  | .marker :: rest => remembered? id rest

/-- Put one remembered element in the place of another. -/
def replaceEntry (old new : Nat) (entries : List FormatEntry) : List FormatEntry :=
  entries.map fun
    | .element i tag => if i = old then .element new tag else .element i tag
    | .marker => .marker

/-- Remember an element as the next newer neighbour of another. -/
def insertNewer (neighbour new : Nat) (tag : Tag) : List FormatEntry → List FormatEntry
  | [] => []
  | .element i t :: rest =>
    if i = neighbour then .element new tag :: .element i t :: rest
    else .element i t :: insertNewer neighbour new tag rest
  | .marker :: rest => .marker :: insertNewer neighbour new tag rest

/-- What the walk from a block out to the formatting element has reached: the node moved last, and
the remembered element that the copy of the formatting goes next to, if it does not take the place
of the formatting element itself. -/
structure Climb where
  last : Nat
  neighbour : Option Nat := none

/-- Move out through the open elements between a block and the formatting element, innermost first.
Formatting among the first three is copied; all else is left. -/
def climb (block : Nat) : Nat → List Nat → Climb → Build Climb
  | _, [], r => return r
  | count, node :: outer, r => do
    let c ← get
    match remembered? node c.formatting with
    | some tag =>
      if 3 ≤ count then
        set { c with
          formatting := forget node c.formatting, stack := c.stack.filter (· != node) }
        climb block (count + 1) outer r
      else
        let copy ← makeElement .page tag
        modify fun c => { c with
          formatting := replaceEntry node copy c.formatting
          stack := c.stack.map fun id => if id = node then copy else id
          arena := c.arena.append copy r.last }
        climb block (count + 1) outer
          ⟨copy, if r.last = block then some copy else r.neighbour⟩
    | none =>
      set { c with stack := c.stack.filter (· != node) }
      climb block (count + 1) outer r

/-- Take a formatting element apart around the outermost block inside it. -/
def adoptBlock (formatting block : Nat) (tag : Tag) (between : List Nat) (ancestor : Nat) :
    Build Unit := do
  let r ← climb block 0 between ⟨block, none⟩
  modify fun c => { c with arena := put (c.arena.detach r.last) r.last (c.placeFor ancestor) }
  let copy ← makeElement .page tag
  modify fun c =>
    let arena := (c.arena.moveChildren block copy).append block copy
    let entries := match r.neighbour with
      | none => replaceEntry formatting copy c.formatting
      | some neighbour => forget formatting (insertNewer neighbour copy tag c.formatting)
    let stack := (c.stack.filter (· != formatting)).flatMap fun id =>
      if id = block then [copy, id] else [id]
    { c with arena, formatting := entries, stack }

/-- One round of taking apart; whether another may be needed. -/
def adoptOnce (name : String) : Build Bool := do
  let c ← get
  match (recentFormatting c.formatting).find? fun e => e.2.name == name with
  | none =>
    endOther name
    return false
  | some (formatting, tag) =>
    if formatting ∉ c.stack then
      set { c with formatting := forget formatting c.formatting }
      return false
    else if !c.scan defaultScope (· == formatting) c.stack then return false
    else
      let inner := c.stack.takeWhile (· != formatting)
      match (inner.filter c.isSpecial).getLast? with
      | none =>
        set { c with
          stack := (c.stack.dropWhile (· != formatting)).drop 1
          formatting := forget formatting c.formatting }
        return false
      | some block =>
        let between := (inner.dropWhile (· != block)).drop 1
        let ancestor := (((c.stack.dropWhile (· != formatting)).drop 1).head?).getD 0
        adoptBlock formatting block tag between ancestor
        return true

def adoptRounds (name : String) : Nat → Build Unit
  | 0 => pure ()
  | rounds + 1 => do if ← adoptOnce name then adoptRounds name rounds

/-- The end tag of a formatting element: taken apart in at most eight rounds. -/
def endFormatting (name : String) : Build Unit := do
  let c ← get
  let plain := c.stack.head?.any fun id =>
    c.isNamed [name] id && (remembered? id c.formatting).isNone
  if plain then close else adoptRounds name 8

end Construction
end Markup
end Folio
