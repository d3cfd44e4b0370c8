import Folio.Markup.Node

namespace Folio
namespace Markup

/-!
# Paths into the tree

A path names a node by child positions, one for each level below the root; texts and comments count
as children.  Walks list the paths of elements in document order.  Changing the element at a path
leaves the paths of all other elements valid as long as no children come or go.
-/

/-- Child positions from the root down. -/
abbrev TreePath := List Nat

namespace Node

mutual

/-- The paths, counted from a node itself, of the elements that pass `p`.  The walk goes below an
element only if it passes `enter`. -/
def paths (enter p : Element → Bool) : Node → List TreePath
  | .element tag attrs children =>
    (if p ⟨tag, attrs, children⟩ then [[]] else []) ++
      (if enter ⟨tag, attrs, children⟩ then pathsFrom enter p 0 children else [])
  | _ => []

/-- The same for a list of siblings, the first of which stands at position `i`. -/
def pathsFrom (enter p : Element → Bool) : Nat → List Node → List TreePath
  | _, [] => []
  | i, n :: ns => (n.paths enter p).map (i :: ·) ++ pathsFrom enter p (i + 1) ns

end

/-- Change the element at a path among siblings; a path that leads to no element changes nothing. -/
def modifyAt (f : Element → Element) : TreePath → List Node → List Node
  | [], ns => ns
  | i :: path, ns =>
    ns.modify i fun
      | .element tag attrs children =>
        match path with
        | [] => (f ⟨tag, attrs, children⟩).toNode
        | _ :: _ => .element tag attrs (modifyAt f path children)
      | n => n

end Node

namespace Element

def child? (e : Element) (i : Nat) : Option Element := e.children[i]?.bind Node.element?

def at? : TreePath → Element → Option Element
  | [], e => some e
  | i :: path, e => (e.child? i).bind (at? path)

/-- The elements along a path, from the root down to and without the node it leads to. -/
def ancestors : TreePath → Element → List Element
  | [], _ => []
  | i :: path, e => e :: ((e.child? i).map (ancestors path)).getD []

/-- The paths of all elements below `e` that pass a test, in document order. -/
def allPaths (e : Element) (p : Element → Bool) : List TreePath :=
  Node.pathsFrom (fun _ => true) p 0 e.children

/-- The paths of the elements below `e`, and not inside a code block below `e`, that pass a test. -/
def pathsOutsideCode (e : Element) (p : Element → Bool) : List TreePath :=
  Node.pathsFrom (fun c => !c.isCodeBlock) p 0 e.children

end Element

end Markup
end Folio
