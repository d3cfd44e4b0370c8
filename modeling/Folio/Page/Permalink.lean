import Folio.Page.Document

namespace Folio

open Markup

/-!
# Permalinks

A reader who wants to point at a section takes the link in its heading.  Every heading, those of the
first level apart, that stands directly in a section with an identifier gets such a link as its
first child.  Example code is left alone.
-/

def permalinkIcon : String :=
  "<svg aria-hidden=\"true\" height=\"16\" viewBox=\"0 0 16 16\" width=\"16\"><path " ++
    "fill-rule=\"evenodd\" d=\"M4 9h1v1H4c-1.5 0-3-1.69-3-3.5S2.55 3 4 3h4c1.45 0 3 1.69 3 " ++
    "3.5 0 1.41-.91 2.72-2 3.25V8.59c.58-.45 1-1.27 1-2.09C10 5.22 8.98 4 8 4H4c-.98 0-2 " ++
    "1.22-2 2.5S3 9 4 9zm9-3h-1v1h1c1 0 2 1.22 2 2.5S13.98 12 13 12H9c-.98 0-2-1.22-2-2.5 " ++
    "0-.83.42-1.64 1-2.09V6.25c-1.09.53-2 1.84-2 3.25C6 11.31 7.55 13 9 13h4c1.45 0 3-1.69 " ++
    "3-3.5S14.5 6 13 6z\"/></svg>"

/-- The link to the section with an identifier. -/
def permalink (sectionId : String) : Element where
  tag := "a"
  attrs := Dict.ofList [("class", "anchor"), ("href", "#" ++ sectionId), ("aria-hidden", "true")]
  children := [.raw permalinkIcon]

/-- The identifier that an element gives to permalinks in its headings. -/
def sectionId? (e : Element) : Option String := if e.tag = "section" then e.id? else none

/-- What a permalink puts in front of the children of an element, if it is a heading of the section
around it. -/
def permalinksOf (sectionId : Option String) (e : Element) : List Node :=
  match sectionId with
  | some id => if e.isHeading && e.tag != "h1" then [(permalink id).toNode] else []
  | none => []

/-- Nothing but one permalink is put in front of children, and that in a heading only. -/
theorem permalinksOf_cases (sectionId : Option String) (e : Element) :
    permalinksOf sectionId e = [] ∨
      e.isHeading = true ∧ ∃ id, permalinksOf sectionId e = [(permalink id).toNode] := by
  cases sectionId with
  | none => exact Or.inl rfl
  | some id =>
      rw [permalinksOf]
      split
      · next linked => exact Or.inr ⟨(Bool.and_eq_true_iff.mp linked).1, id, rfl⟩
      · exact Or.inl rfl

namespace Markup.Node

mutual

/-- Put permalinks into a node and below it; `sectionId` comes from the element it stands in. -/
def addPermalinks (sectionId : Option String) : Node → Node
  | .element tag attrs children =>
    if tag = "pre" then .element tag attrs children
    else
      let e : Element := ⟨tag, attrs, children⟩
      .element tag attrs
        (permalinksOf sectionId e ++ addPermalinksIn (sectionId? e) children)
  | n => n

def addPermalinksIn (sectionId : Option String) : List Node → List Node
  | [] => []
  | n :: ns => n.addPermalinks sectionId :: addPermalinksIn sectionId ns

end

end Markup.Node

def Document.addPermalinks (d : Document) : Document :=
  { d with children := Node.addPermalinksIn none d.children }

end Folio
