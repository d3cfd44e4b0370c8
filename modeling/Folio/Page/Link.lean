import Folio.Page.Document
import Folio.Url

namespace Folio

open Markup

/-!
# Links between pages

Links from one source page to another are made to lead to the place where the site serves the page.
A link with the attribute `data-external` is left alone, whatever its address looks like.
-/

/-- The attribute of links that lead out of the site. -/
def externalAttr : String := "data-external"

/-- The attributes of an element with its link, if it is one to another page, published. -/
def publishAttrs (tag : String) (attrs : Dict String) : Dict String :=
  if tag = "a" ∧ !attrs.contains externalAttr then
    match attrs.get? "href" with
    | some href => if Url.isInternal href then attrs.insert "href" (Url.published href) else attrs
    | none => attrs
  else attrs

namespace Markup.Node

mutual

/-- Publish the links of a node and of everything below it. -/
def publishLinks : Node → Node
  | .element tag attrs children =>
    .element tag (publishAttrs tag attrs) (publishLinksIn children)
  | n => n

def publishLinksIn : List Node → List Node
  | [] => []
  | n :: ns => n.publishLinks :: publishLinksIn ns

end

end Markup.Node

def Document.publishLinks (d : Document) : Document :=
  { d with children := Node.publishLinksIn d.children }

end Folio
