import Folio.Markup.Construction.Page
import Folio.Markup.Printer
import Folio.Markup.TreePath

namespace Folio

open Markup

/-!
# Documents

What is published of a page is its article.  A document is therefore kept as the attributes and the
content of an `article` element, so that its root has that tag by construction.  A page without an
article becomes one: the content of its body.
-/

/-- The article of a page: the attributes and the children of its root. -/
structure Document where
  attrs : Dict String := Dict.empty
  children : List Node := []
  deriving Inhabited

namespace Document

def root (d : Document) : Element := ⟨"article", d.attrs, d.children⟩

/-- The document of an element, which is wrapped in an article unless it is one. -/
def ofElement (e : Element) : Document :=
  if e.tag = "article" then ⟨e.attrs, e.children⟩ else ⟨Dict.empty, [e.toNode]⟩

/-- The document of a page: its first article, or else what its body holds. -/
def ofNodes (nodes : List Node) : Document :=
  match Node.findIn? (fun e => e.tag == "article") nodes with
  | some article => ofElement article
  | none =>
    match Node.findIn? (fun e => e.tag == "body") nodes with
    | some body => ⟨Dict.empty, body.children⟩
    | none => {}

def ofPage (page : String) : Document := ofNodes (Construction.readPage page)

def print (d : Document) : String := d.root.print

/-- The title: the text of the first heading of the first level, if it has any. -/
def title? (d : Document) : Option String :=
  ((Node.findIn? (fun e => e.tag == "h1") d.children).map Element.normalText).filter (!·.isEmpty)

/-- Change the element at a path; the root keeps its tag. -/
def modifyAt (d : Document) (path : TreePath) (f : Element → Element) : Document :=
  match path with
  | [] =>
    let e := f d.root
    ⟨e.attrs, e.children⟩
  | _ :: _ => { d with children := Node.modifyAt f path d.children }

def at? (d : Document) (path : TreePath) : Option Element := d.root.at? path

def ancestors (d : Document) (path : TreePath) : List Element := d.root.ancestors path

def pathsOutsideCode (d : Document) (p : Element → Bool) : List TreePath :=
  d.root.pathsOutsideCode p

def allPaths (d : Document) (p : Element → Bool) : List TreePath := d.root.allPaths p

@[simp] theorem root_ofElement_article (e : Element) (h : e.tag = "article") :
    (ofElement e).root = e := by
  cases e; simp_all [ofElement, root]

end Document

end Folio
