import Folio.Digest
import Folio.Page.FullText

namespace Folio

open Markup

/-!
# Anchors

Every heading, callout, figure and full-text fragment of a page gets an identifier that is its own.
An identifier that the author wrote is kept where it can be.  Otherwise one is made from the text,
with the identifier of the nearest element around it in front, so that it stays the same while other
parts of the page change.  A registry holds the identifiers in use.
-/

/-- The identifiers in use.  The proof field makes their number that of different identifiers. -/
structure IdRegistry where
  ids : List String := []
  nodup : ids.Nodup := by simp

namespace IdRegistry

def contains (r : IdRegistry) (id : String) : Bool := r.ids.contains id

def size (r : IdRegistry) : Nat := r.ids.length

def isEmpty (r : IdRegistry) : Bool := r.ids.isEmpty

/-- Take an identifier into the registry; one that is there already stays there once. -/
def register (r : IdRegistry) (id : String) : IdRegistry :=
  if h : id ∈ r.ids then r else ⟨id :: r.ids, List.nodup_cons.2 ⟨h, r.nodup⟩⟩

/-- Take an identifier that a page has already, and tell whether it was free. -/
def reserve (r : IdRegistry) (id : String) : Bool × IdRegistry := (!r.contains id, r.register id)

/-- A candidate with a number behind it. -/
def numbered (candidate : String) (n : Nat) : String := candidate ++ "_" ++ toString n

/-- A candidate if it is free, and else the candidate with the least number that makes it free.
Among one number more than there are identifiers, one is free. -/
def unique (r : IdRegistry) (candidate : String) : String :=
  if r.contains candidate then
    (((List.range (r.size + 1)).map (numbered candidate)).find? (!r.contains ·)).getD candidate
  else candidate

/-- Find an identifier that is free and take it. -/
def makeUnique (r : IdRegistry) (candidate : String) : String × IdRegistry :=
  let id := r.unique candidate
  (id, r.register id)

end IdRegistry

/-- The identifier an element asks for: the author's, or else one made from its text and put behind
the identifier of the scope. -/
def anchorCandidate (e : Element) (scope : Option String) : String :=
  e.id?.getD (((scope.map (· ++ ":")).getD "") ++ shortDigest e.normalText)

/-- Give an element an identifier of its own. -/
def IdRegistry.assign (r : IdRegistry) (e : Element) (scope : Option String) :
    Element × IdRegistry :=
  let (id, r) := r.makeUnique (anchorCandidate e scope)
  (e.setAttr "id" id, r)

/-! ## Anchors of a page -/

/-- Elements that get an identifier whatever they hold. -/
def isStructural (e : Element) : Bool := e.isHeading || e.isCallout || e.tag == "figure"

namespace Document

/-- The elements that get an identifier: headings, callouts and figures, then the fragments of
running text that are none of them. -/
def anchorTargets (d : Document) : List TreePath :=
  let structural := d.pathsOutsideCode isStructural
  structural ++ d.fullTextPaths.filter (!structural.contains ·)

/-- Whether the author gave the element at a path an identifier. -/
def hasIdAt (d : Document) (path : TreePath) : Bool := ((d.at? path).bind Element.id?).isSome

/-- The order of assignment: the author's identifiers are claimed before any is made. -/
def anchorOrder (d : Document) : List TreePath :=
  let targets := d.anchorTargets
  targets.filter d.hasIdAt ++ targets.filter (!d.hasIdAt ·)

/-- The identifiers of all elements that are no targets; the root is one of these. -/
def reservedIds (d : Document) : IdRegistry :=
  let targets := d.anchorTargets
  let others := (d.allPaths fun e => e.id?.isSome).filter (!targets.contains ·)
  (d.root.id?.toList ++ others.filterMap fun path => (d.at? path).bind Element.id?).foldl
    IdRegistry.register {}

/-- The identifier of the nearest element around a path that has one. -/
def scopeAt (d : Document) (path : TreePath) : Option String :=
  (d.ancestors path).reverse.findSome? Element.id?

/-- Give the element at a path its identifier. -/
def assignAt (d : Document) (r : IdRegistry) (path : TreePath) : Document × IdRegistry :=
  match d.at? path with
  | none => (d, r)
  | some e =>
    let (id, r) := r.makeUnique (anchorCandidate e (d.scopeAt path))
    (d.modifyAt path (·.setAttr "id" id), r)

/-- Give every target of a page an identifier of its own. -/
def assignAnchors (d : Document) : Document :=
  (d.anchorOrder.foldl (fun s path => s.1.assignAt s.2 path) (d, d.reservedIds)).1

end Document

end Folio
