import Folio.Markup.Node

namespace Folio
namespace Markup

/-!
# A tree under construction

While a page is read, nodes move: misnested formatting is taken apart, and text that may not stand
in a table goes in front of it.  The tree is therefore kept as numbered items that know their parent
and their children, and becomes a `Node` only when the page has been read.
-/

/-- The vocabulary that an element belongs to. -/
inductive Vocabulary where
  | page
  | drawing
  | formula
  deriving DecidableEq

/-- What an item of the tree is. -/
inductive ItemKind where
  | document
  | element (vocabulary : Vocabulary) (name : String) (attrs : Dict String)
  | text (text : String)
  | comment (text : String)
  /-- What a template holds; it hangs below no element. -/
  | templateContents

structure Item where
  kind : ItemKind
  parent : Option Nat := none
  children : Array Nat := #[]

/-- The items of a tree, named by their positions. -/
structure Arena where
  items : Array Item

namespace Arena

/-- The tree with nothing but the document, which is item 0. -/
def start : Arena := ⟨#[⟨.document, none, #[]⟩]⟩

def kind? (a : Arena) (id : Nat) : Option ItemKind := a.items[id]?.map (·.kind)

def parent? (a : Arena) (id : Nat) : Option Nat := a.items[id]?.bind (·.parent)

def children (a : Arena) (id : Nat) : Array Nat := (a.items[id]?.map (·.children)).getD #[]

def name? (a : Arena) (id : Nat) : Option (Vocabulary × String) :=
  match a.kind? id with
  | some (.element v n _) => some (v, n)
  | _ => none

def attrs (a : Arena) (id : Nat) : Dict String :=
  match a.kind? id with
  | some (.element _ _ attrs) => attrs
  | _ => Dict.empty

def modify (a : Arena) (id : Nat) (f : Item → Item) : Arena := ⟨a.items.modify id f⟩

/-- A new item that hangs nowhere, and its name. -/
def add (a : Arena) (kind : ItemKind) : Arena × Nat := (⟨a.items.push { kind }⟩, a.items.size)

/-- Take an item out of its parent. -/
def detach (a : Arena) (id : Nat) : Arena :=
  match a.parent? id with
  | none => a
  | some p =>
    (a.modify p fun i => { i with children := i.children.filter (· != id) }).modify id
      fun i => { i with parent := none }

/-- Hang an item below `parent`, last of its children. -/
def append (a : Arena) (parent id : Nat) : Arena :=
  ((a.detach id).modify parent fun i => { i with children := i.children.push id }).modify id
    fun i => { i with parent := some parent }

/-- Hang an item right before `sibling`. -/
def insertBefore (a : Arena) (sibling id : Nat) : Arena :=
  let a := a.detach id
  match a.parent? sibling with
  | none => a
  | some p =>
    let children := (a.children p).toList.flatMap fun c => if c = sibling then [id, c] else [c]
    (a.modify p fun i => { i with children := children.toArray }).modify id
      fun i => { i with parent := some p }

/-- Hang all children of `source` below `target`, in order. -/
def moveChildren (a : Arena) (source target : Nat) : Arena :=
  (a.children source).foldl (fun a c => a.append target c) a

/-- Lengthen a text; anything else stays as it is. -/
def lengthen (a : Arena) (id : Nat) (text : String) : Arena :=
  a.modify id fun i =>
    match i.kind with
    | .text s => { i with kind := .text (s ++ text) }
    | _ => i

def isText (a : Arena) (id : Nat) : Bool :=
  match a.kind? id with
  | some (.text _) => true
  | _ => false

/-- Text at the end of `parent`, joined to a text that stands there. -/
def appendText (a : Arena) (parent : Nat) (text : String) : Arena :=
  match (a.children parent).back? with
  | some last =>
    if a.isText last then a.lengthen last text
    else let (a, id) := a.add (.text text); a.append parent id
  | none => let (a, id) := a.add (.text text); a.append parent id

/-- The child that stands right before `sibling`. -/
def previous? (a : Arena) (sibling : Nat) : Option Nat :=
  ((a.parent? sibling).map fun p =>
    ((a.children p).toList.takeWhile (· != sibling)).getLast?).join

/-- Text right before `sibling`, joined to a text that stands there. -/
def insertTextBefore (a : Arena) (sibling : Nat) (text : String) : Arena :=
  match a.previous? sibling with
  | some last =>
    if a.isText last then a.lengthen last text
    else let (a, id) := a.add (.text text); a.insertBefore sibling id
  | none => let (a, id) := a.add (.text text); a.insertBefore sibling id

/-! ## The finished tree -/

/-- The nodes below an item, no deeper than `depth`. -/
def nodesBelow (a : Arena) : Nat → Nat → List Node
  | 0, _ => []
  | depth + 1, id =>
    (a.children id).toList.filterMap fun c =>
      match a.kind? c with
      | some (.element _ name attrs) => some (.element name attrs (nodesBelow a depth c))
      | some (.text s) => some (.text s)
      | some (.comment s) => some (.comment s)
      | _ => none

/-- The tree as nodes.  No path is longer than the number of items. -/
def nodes (a : Arena) : List Node := a.nodesBelow a.items.size 0

end Arena

end Markup
end Folio
