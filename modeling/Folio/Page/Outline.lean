import Folio.Page.Document

namespace Folio

open Markup

/-!
# Outlines

The outline of a page lists its sections with an identifier, as they are nested: directly in the
article, or directly in a listed section.
-/

/-- A section of a page: its heading, its identifier, and the sections in it. -/
inductive OutlineEntry where
  | entry (heading anchor : String) (sections : List OutlineEntry)
  deriving Inhabited

namespace OutlineEntry

def heading : OutlineEntry → String
  | entry h _ _ => h

def anchor : OutlineEntry → String
  | entry _ a _ => a

def sections : OutlineEntry → List OutlineEntry
  | entry _ _ s => s

/-- The text of the first heading among nodes. -/
def headingOf (nodes : List Node) : String :=
  (((Node.elements nodes).find? Element.isHeading).map Element.normalText).getD ""

mutual

/-- The outline entry of a node: a section with an identifier has one. -/
def ofNode : Node → List OutlineEntry
  | .element tag attrs children =>
    if tag = "section" then
      match Element.id? ⟨tag, attrs, children⟩ with
      | some id => [entry (headingOf children) id (ofNodes children)]
      | none => []
    else []
  | _ => []

def ofNodes : List Node → List OutlineEntry
  | [] => []
  | n :: ns => ofNode n ++ ofNodes ns

end

end OutlineEntry

def Document.outline (d : Document) : List OutlineEntry := OutlineEntry.ofNodes d.children

end Folio
