import Folio.Markup.Construction.Table

namespace Folio
namespace Markup
namespace Construction

/-!
# Rules for drawings and formulas

Inside a drawing or a formula tags open elements of that vocabulary.  Some elements of it may hold
page content again, and some tags of the page vocabulary end the drawing or formula.
-/

/-- Whether an element of a formula may hold text of the page. -/
def holdsText (c : Construction) (id : Nat) : Bool :=
  match c.name? id with
  | some (.formula, n) => ["mi", "mo", "mn", "ms", "mtext"].contains n
  | _ => false

/-- Whether an element of a drawing may hold page content. -/
def holdsPage (c : Construction) (id : Nat) : Bool :=
  match c.name? id with
  | some (.drawing, n) => ["foreignObject", "desc", "title"].contains n
  | _ => false

/-- Whether a token is handled by the rules for drawings and formulas. -/
def isForeign (c : Construction) (token : Token) : Bool :=
  match c.stack.head? with
  | none => false
  | some id =>
    match c.name? id with
    | some (.page, _) | none => false
    | some (vocabulary, name) =>
      match token with
      | .startTag tag =>
        !((c.holdsText id && tag.name != "mglyph" && tag.name != "malignmark") ||
          (vocabulary == .formula && name == "annotation-xml" && tag.name == "svg") ||
          c.holdsPage id)
      | .blank _ | .chars _ | .null => !(c.holdsText id || c.holdsPage id)
      | .endOfPage => false
      | _ => true

/-- Start tags of the page vocabulary that end a drawing or a formula. -/
def breakoutTags : List String :=
  ["b", "big", "blockquote", "body", "br", "center", "code", "dd", "div", "dl", "dt", "em", "embed",
    "h1", "h2", "h3", "h4", "h5", "h6", "head", "hr", "i", "img", "li", "listing", "menu", "meta",
    "nobr", "ol", "p", "pre", "ruby", "s", "small", "span", "strong", "strike", "sub", "sup",
    "table", "tt", "u", "ul", "var"]

def breaksOut (tag : Tag) : Bool :=
  breakoutTags.contains tag.name ||
    (tag.name == "font" && ["color", "face", "size"].any tag.attrs.contains)

def leaveForeign : Build Outcome := do
  modify fun c =>
    { c with
      stack := c.stack.dropWhile fun id =>
        !((c.name? id).any (·.1 == .page) || c.holdsText id || c.holdsPage id) }
  return .againInPage

/-- The end tag of an element of a drawing or formula: the innermost open element with that name in
any case of letters is left, unless an element of the page stands between. -/
def endForeign (c : Construction) (name : String) : List Nat → Option (List Nat)
  | [] => some c.stack
  | id :: outer =>
    match c.name? id with
    | some (.page, _) | none => none
    | some (_, n) =>
      if outer.isEmpty then some c.stack
      else if n.toList.map Char.toLower = name.toList then some outer
      else endForeign c name outer

def inForeign (token : Token) : Build Outcome := do
  match token with
  | .null => insertText (String.singleton replacementChar); return .done
  | .blank s => insertText s; return .done
  | .chars s => insertText s; forbidFrames; return .done
  | .comment s => insertComment s; return .done
  | .documentType _ => return .done
  | .startTag tag =>
    if breaksOut tag then leaveForeign
    else
      let c ← get
      match c.stack.head?.bind c.name? with
      | some (vocabulary, _) => insertForeign vocabulary tag
      | none => return .done
  | .endTag tag =>
    if tag.name = "br" ∨ tag.name = "p" then leaveForeign
    else
      let c ← get
      match endForeign c tag.name c.stack with
      | some stack =>
        set { c with stack }
        return .done
      | none => return .againInPage
  | .endOfPage => return .done

end Construction
end Markup
end Folio
