import Folio.Page.Document

namespace Folio

open Markup

/-!
# Full-text fragments

The running text of a page is cut into fragments that cover it without overlap.  Paragraphs come
first; a list item is a fragment of its own only if it neither holds a fragment nor stands in one.
Both are taken in document order, and example code has no fragments.
-/

/-- Whether one of two paths leads through the other. -/
def pathsOverlap (a b : TreePath) : Bool := a.isPrefixOf b || b.isPrefixOf a

/-- Take those of `paths`, in order, that overlap nothing taken before. -/
def takeFree (taken paths : List TreePath) : List TreePath :=
  paths.foldl
    (fun taken path => if taken.any (pathsOverlap path) then taken else taken ++ [path]) taken

/-- The elements that running text stands in, in the order in which they are taken. -/
def fullTextTags : List String := ["p", "li"]

def Document.fullTextPaths (d : Document) : List TreePath :=
  fullTextTags.foldl (fun taken tag => takeFree taken (d.pathsOutsideCode fun e => e.tag == tag)) []

end Folio
