import Folio.Table
import Folio.Markup.Escape
import Folio.Text.Blank

namespace Folio
namespace Markup

/-!
# The tree of a page

A node is an element with ordered attributes and children, a text, a comment, or raw markup that
another program has written and that is printed as it is.  An `Element` is the view of an element
node that tests and replacements are given.  Every walk is a pair of functions, one on a node and
one on a list of nodes, that recurse on the tree itself.
-/

inductive Node where
  /-- An element: its tag, its attributes in source order, and what it holds. -/
  | element (tag : String) (attrs : Dict String) (children : List Node)
  /-- A text, with character references decoded. -/
  | text (text : String)
  /-- A comment, kept so that the notes of an author survive. -/
  | comment (text : String)
  /-- Markup from a highlighter or an icon, printed verbatim. -/
  | raw (markup : String)
  deriving Inhabited

/-- What an element node is made of. -/
structure Element where
  tag : String
  attrs : Dict String := Dict.empty
  children : List Node := []
  deriving Inhabited

namespace Element

def toNode (e : Element) : Node := .element e.tag e.attrs e.children

def attr? (e : Element) (name : String) : Option String := e.attrs.get? name

def hasAttr (e : Element) (name : String) : Bool := e.attrs.contains name

/-- Give an attribute a value; one that is there already keeps its position. -/
def setAttr (e : Element) (name value : String) : Element :=
  { e with attrs := e.attrs.insert name value }

def removeAttr (e : Element) (name : String) : Element :=
  { e with attrs := e.attrs.erase name }

/-- The identifier of an element; an empty one does not count. -/
def id? (e : Element) : Option String := (e.attr? "id").filter fun id => !id.isEmpty

def hasClass (e : Element) (name : String) : Bool :=
  ((e.attr? "class").map Text.words).any (·.contains name)

def headingTags : List String := ["h1", "h2", "h3", "h4", "h5", "h6"]

def isHeading (e : Element) : Bool := headingTags.contains e.tag

/-- Whether an element is a block set off from the text: a warning or a piece of information. -/
def isCallout (e : Element) : Bool := e.hasClass "warning" || e.hasClass "info"

/-- Whether an element is a code block, whose content is example code and not structure. -/
def isCodeBlock (e : Element) : Bool := e.tag == "pre"

end Element

namespace Node

def element? : Node → Option Element
  | .element tag attrs children => some ⟨tag, attrs, children⟩
  | _ => none

/-- The elements among a list of nodes. -/
def elements (nodes : List Node) : List Element := nodes.filterMap element?

mutual

/-- The text that a node shows: the texts below it, and the text of raw markup. -/
def shownText : Node → String
  | .element _ _ children => shownTextOf children
  | .text s => s
  | .comment _ => ""
  | .raw markup => stripTags markup

def shownTextOf : List Node → String
  | [] => ""
  | n :: ns => n.shownText ++ shownTextOf ns

end

/-! ## Search and replacement -/

mutual

/-- The first element in document order, the node itself included, that passes a test. -/
def find? (p : Element → Bool) : Node → Option Element
  | .element tag attrs children =>
    if p ⟨tag, attrs, children⟩ then some ⟨tag, attrs, children⟩ else findIn? p children
  | _ => none

def findIn? (p : Element → Bool) : List Node → Option Element
  | [] => none
  | n :: ns => (n.find? p).or (findIn? p ns)

end

mutual

/-- Put other nodes in the place of the elements that pass a test.  The walk does not look into code
blocks that fail the test, nor into what has been put in.  A state is carried from one replacement
to the next, in document order. -/
def replace {σ : Type} (p : Element → Bool) (f : Element → σ → List Node × σ) :
    Node → σ → List Node × σ
  | .element tag attrs children, s =>
    if p ⟨tag, attrs, children⟩ then f ⟨tag, attrs, children⟩ s
    else if tag = "pre" then ([.element tag attrs children], s)
    else
      let r := replaceIn p f children s
      ([.element tag attrs r.1], r.2)
  | n, s => ([n], s)

def replaceIn {σ : Type} (p : Element → Bool) (f : Element → σ → List Node × σ) :
    List Node → σ → List Node × σ
  | [], s => ([], s)
  | n :: ns, s =>
    let r := n.replace p f s
    let rs := replaceIn p f ns r.2
    (r.1 ++ rs.1, rs.2)

end

end Node

namespace Element

/-- The text of everything below an element. -/
def shownText (e : Element) : String := Node.shownTextOf e.children

/-- The shown text with runs of white space made single spaces. -/
def normalText (e : Element) : String := Text.normalize e.shownText

def childElements (e : Element) : List Element := Node.elements e.children

def findChild? (e : Element) (p : Element → Bool) : Option Element := e.childElements.find? p

/-- The first element below `e`, in document order, that passes a test. -/
def findBelow? (e : Element) (p : Element → Bool) : Option Element := Node.findIn? p e.children

end Element

end Markup
end Folio
