import Folio.Markup.Node

namespace Folio
namespace Markup

/-!
# Printing markup

Elements are printed with their attributes in double quotes.  Void elements have no end tag and lose
whatever they hold; elements of raw text have their texts printed as they are.  Readers drop a line
feed right after the start tag of a few elements, so one more is printed where the content begins
with one.
-/

/-- Elements without content. -/
def voidTags : List String :=
  ["area", "base", "br", "col", "embed", "hr", "img", "input", "link", "meta", "param", "source",
    "track", "wbr"]

/-- Elements whose texts are not escaped. -/
def rawTextTags : List String := ["script", "style", "xmp", "iframe", "noembed", "noframes"]

/-- Elements whose content loses a line feed at its start when it is read. -/
def lineFeedTags : List String := ["pre", "textarea", "listing"]

/-- Whether the content of an element begins with a line feed that readers would drop. -/
def needsLineFeed (tag : String) : List Node → Bool
  | .text s :: _ => lineFeedTags.contains tag && s.toList.head? == some '\n'
  | _ => false

/-- Attributes in order, each with a space in front. -/
def printAttrs (attrs : Dict String) : String :=
  String.join (attrs.entries.map fun a => " " ++ a.1 ++ "=\"" ++ escapeValue a.2 ++ "\"")

def printStart (tag : String) (attrs : Dict String) : String :=
  "<" ++ tag ++ printAttrs attrs ++ ">"

namespace Node

mutual

/-- A node as markup; `rawText` says whether the element around it holds raw text. -/
def print (rawText : Bool) : Node → String
  | .element tag attrs children =>
    if voidTags.contains tag then printStart tag attrs
    else
      printStart tag attrs ++ (if needsLineFeed tag children then "\n" else "") ++
        printAll (rawTextTags.contains tag) children ++ "</" ++ tag ++ ">"
  | .text s => if rawText then s else escapeText s
  | .comment s => "<!--" ++ s ++ "-->"
  | .raw markup => markup

def printAll (rawText : Bool) : List Node → String
  | [] => ""
  | n :: ns => n.print rawText ++ printAll rawText ns

end

/-- The code that a child of a code block shows: a text as it is, anything else as markup. -/
def codeText : Node → String
  | .text s => s
  | n => n.print false

end Node

namespace Element

def print (e : Element) : String := e.toNode.print false

/-- The code that a code block shows. -/
def codeSource (e : Element) : String := String.join (e.children.map Node.codeText)

end Element

end Markup
end Folio
