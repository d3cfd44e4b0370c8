import Folio.Proofs.Markup.Place

namespace Folio

/-!
# Trees without an attribute

What an attribute is good for is seen by comparing a tree with the tree in which no element has it.
Dropping an attribute keeps every element at its place, with its tag, its other attributes and its
text.  A view of elements that does not read the attribute is the same on both trees, and so are the
walks and searches whose tests are such views.  Two trees that are alike without an attribute
therefore differ in nothing but what is read off that attribute.
-/

namespace Table

variable {κ α : Type} [DecidableEq κ]

private theorem filter_putEntry (key : κ) (value : α) (l : List (κ × α)) :
    (putEntry key value l).filter (fun e => e.1 != key) = l.filter fun e => e.1 != key := by
  induction l with
  | nil => simp [putEntry]
  | cons e l inductionHypothesis =>
      by_cases same : e.1 = key
      · simp [putEntry, same]
      · simp [putEntry, same, inductionHypothesis]

/-- What has been put at a key is dropped with the key. -/
theorem erase_insert_self (d : Table κ α) (key : κ) (value : α) :
    (d.insert key value).erase key = d.erase key := by
  have same := filter_putEntry key value d.entries
  simp only [erase, insert, same]

end Table

namespace Markup

namespace Node

mutual

def without (name : String) : Node → Node
  | .element tag attrs children => .element tag (attrs.erase name) (withoutIn name children)
  | n => n

def withoutIn (name : String) : List Node → List Node
  | [] => []
  | n :: ns => n.without name :: withoutIn name ns

end

end Node

/-- An element without an attribute, which nothing in it has either. -/
def Element.without (name : String) (e : Element) : Element :=
  ⟨e.tag, e.attrs.erase name, Node.withoutIn name e.children⟩

namespace Node

variable {name : String}

theorem withoutIn_eq_map (nodes : List Node) : withoutIn name nodes = nodes.map (without name) := by
  induction nodes with
  | nil => rfl
  | cons n nodes inductionHypothesis => rw [withoutIn, inductionHypothesis, List.map_cons]

theorem element?_without (n : Node) :
    (n.without name).element? = n.element?.map (Element.without name) := by
  cases n <;> rfl

theorem elements_withoutIn (nodes : List Node) :
    elements (withoutIn name nodes) = (elements nodes).map (Element.without name) := by
  rw [withoutIn_eq_map, elements, elements, List.filterMap_map, List.map_filterMap]
  congr 1
  funext n
  exact element?_without n

theorem getElem?_withoutIn (nodes : List Node) (i : Nat) :
    (withoutIn name nodes)[i]? = nodes[i]?.map (without name) := by
  rw [withoutIn_eq_map, List.getElem?_map]

mutual

theorem shownText_without : ∀ n : Node, (n.without name).shownText = n.shownText
  | .element _ _ children => shownTextOf_withoutIn children
  | .text _ => rfl
  | .comment _ => rfl
  | .raw _ => rfl

theorem shownTextOf_withoutIn : ∀ nodes : List Node,
    shownTextOf (withoutIn name nodes) = shownTextOf nodes
  | [] => rfl
  | n :: nodes => by
      rw [withoutIn, shownTextOf, shownTextOf, shownText_without n, shownTextOf_withoutIn nodes]

end

end Node

/-- Whether a view of elements is the same without an attribute. -/
def Ignores {α : Type} (name : String) (view : Element → α) : Prop :=
  ∀ e : Element, view (e.without name) = view e

section Views

variable {name : String}

theorem ignores_tag : Ignores name Element.tag := fun _ => rfl

theorem Element.attr?_without {other : String} (different : other ≠ name) (e : Element) :
    (e.without name).attr? other = e.attr? other :=
  (Table.get?_erase e.attrs name other).trans (if_neg different)

theorem ignores_shownText : Ignores name Element.shownText :=
  fun e => Node.shownTextOf_withoutIn e.children

theorem Ignores.comp {α β : Type} {view : Element → α} (ignores : Ignores name view) (f : α → β) :
    Ignores name fun e => f (view e) :=
  fun e => congrArg f (ignores e)

theorem ignores_normalText : Ignores name Element.normalText :=
  ignores_shownText.comp Text.normalize

theorem ignores_isTag (tag : String) : Ignores name fun e => e.tag == tag :=
  ignores_tag.comp (· == tag)

theorem ignores_id? (different : "id" ≠ name) : Ignores name Element.id? := by
  intro e
  rw [Element.id?, Element.id?, Element.attr?_without different]

theorem ignores_isCallout (different : "class" ≠ name) : Ignores name Element.isCallout := by
  intro e
  have sameClasses := Element.attr?_without different e
  rw [Element.isCallout, Element.isCallout, Element.hasClass, Element.hasClass, Element.hasClass,
    Element.hasClass, sameClasses]

end Views

namespace Node

variable {name : String} {p : Element → Bool}

mutual

theorem find?_without (ignores : Ignores name p) : ∀ n : Node,
    (n.without name).find? p = (n.find? p).map (Element.without name)
  | .element tag attrs children => by
      have sameTest := ignores ⟨tag, attrs, children⟩
      rw [Element.without] at sameTest
      rw [without, find?, find?, sameTest, findIn?_withoutIn ignores children]
      split <;> rfl
  | .text _ => rfl
  | .comment _ => rfl
  | .raw _ => rfl

theorem findIn?_withoutIn (ignores : Ignores name p) : ∀ nodes : List Node,
    findIn? p (withoutIn name nodes) = (findIn? p nodes).map (Element.without name)
  | [] => rfl
  | n :: nodes => by
      rw [withoutIn, findIn?, findIn?, find?_without ignores n, findIn?_withoutIn ignores nodes,
        Option.map_or]

end

mutual

theorem paths_without {enter : Element → Bool} (entered : Ignores name enter)
    (ignores : Ignores name p) : ∀ n : Node, (n.without name).paths enter p = n.paths enter p
  | .element tag attrs children => by
      have sameTest := ignores ⟨tag, attrs, children⟩
      have sameEntry := entered ⟨tag, attrs, children⟩
      rw [Element.without] at sameTest sameEntry
      rw [without, paths, paths, sameTest, sameEntry, pathsFrom_withoutIn entered ignores children]
  | .text _ => rfl
  | .comment _ => rfl
  | .raw _ => rfl

/-- A walk lists the same paths if neither its test nor its way reads the attribute. -/
theorem pathsFrom_withoutIn {enter : Element → Bool} (entered : Ignores name enter)
    (ignores : Ignores name p) : ∀ (nodes : List Node) (i : Nat),
      pathsFrom enter p i (withoutIn name nodes) = pathsFrom enter p i nodes
  | [], _ => rfl
  | n :: nodes, i => by
      rw [withoutIn, pathsFrom, pathsFrom, paths_without entered ignores n,
        pathsFrom_withoutIn entered ignores nodes]

end

end Node

namespace Element

variable {name : String}

theorem findBelow?_without {p : Element → Bool} (ignores : Ignores name p) (e : Element) :
    (e.without name).findBelow? p = (e.findBelow? p).map (without name) :=
  Node.findIn?_withoutIn ignores e.children

theorem childElements_without (e : Element) :
    (e.without name).childElements = e.childElements.map (without name) :=
  Node.elements_withoutIn e.children

theorem findChild?_without {p : Element → Bool} (ignores : Ignores name p) (e : Element) :
    (e.without name).findChild? p = (e.findChild? p).map (without name) := by
  have sameTest : p ∘ without name = p := funext ignores
  rw [findChild?, findChild?, childElements_without, List.find?_map, sameTest]

theorem child?_without (e : Element) (i : Nat) :
    (e.without name).child? i = (e.child? i).map (without name) := by
  rw [child?, child?, without, Node.getElem?_withoutIn, Option.bind_map, Option.map_bind]
  congr 1
  funext n
  exact Node.element?_without n

theorem at?_without (path : TreePath) (e : Element) :
    (e.without name).at? path = (e.at? path).map (without name) := by
  induction path generalizing e with
  | nil => rfl
  | cons i path inductionHypothesis =>
      rw [at?_cons, at?_cons, child?_without]
      cases e.child? i with
      | none => rfl
      | some c => exact inductionHypothesis c

theorem ancestors_without (path : TreePath) (e : Element) :
    (e.without name).ancestors path = (e.ancestors path).map (without name) := by
  induction path generalizing e with
  | nil => rfl
  | cons i path inductionHypothesis =>
      rw [ancestors, ancestors, child?_without]
      cases e.child? i with
      | none => rfl
      | some c => simp [inductionHypothesis c]

end Element

end Markup

/-! ## Documents -/

open Markup

namespace Document

variable {name : String}

/-- A document in which no element has an attribute. -/
def without (name : String) (d : Document) : Document :=
  ⟨d.attrs.erase name, Node.withoutIn name d.children⟩

theorem at?_without (d : Document) (path : TreePath) :
    (d.without name).at? path = (d.at? path).map (Element.without name) :=
  Element.at?_without path d.root

theorem ancestors_without (d : Document) (path : TreePath) :
    (d.without name).ancestors path = (d.ancestors path).map (Element.without name) :=
  Element.ancestors_without path d.root

theorem allPaths_without {p : Element → Bool} (ignores : Ignores name p) (d : Document) :
    (d.without name).allPaths p = d.allPaths p :=
  Node.pathsFrom_withoutIn (fun _ => rfl) ignores d.children 0

theorem pathsOutsideCode_without {p : Element → Bool} (ignores : Ignores name p) (d : Document) :
    (d.without name).pathsOutsideCode p = d.pathsOutsideCode p :=
  Node.pathsFrom_withoutIn (fun _ => rfl) ignores d.children 0

end Document

namespace Markup.Node

variable {name : String}

theorem withoutIn_modify {change : Node → Node}
    (keeps : ∀ n, (change n).without name = n.without name) (nodes : List Node) (i : Nat) :
    withoutIn name (nodes.modify i change) = withoutIn name nodes := by
  induction nodes generalizing i with
  | nil => rw [List.modify_nil]
  | cons n nodes inductionHypothesis =>
      cases i with
      | zero => rw [List.modify_zero_cons, withoutIn, withoutIn, keeps]
      | succ i => rw [List.modify_succ_cons, withoutIn, withoutIn, inductionHypothesis]

theorem withoutIn_setAttr (value : String) (path : TreePath) (nodes : List Node) :
    withoutIn name (modifyAt (·.setAttr name value) path nodes) = withoutIn name nodes := by
  induction path generalizing nodes with
  | nil => rw [modifyAt]
  | cons i path inductionHypothesis =>
      rw [modifyAt_cons]
      apply withoutIn_modify
      intro n
      cases n with
      | element tag attrs children =>
          cases path with
          | nil =>
              exact congrArg (element tag · (withoutIn name children))
                (Table.erase_insert_self attrs name value)
          | cons j path =>
              exact congrArg (element tag (attrs.erase name)) (inductionHypothesis children)
      | text s => rfl
      | comment s => rfl
      | raw markup => rfl

end Markup.Node

/-- Giving an attribute a value makes no difference to the page without the attribute. -/
theorem Document.without_setAttr (d : Document) {path : TreePath} (below : path ≠ [])
    (name value : String) :
    (d.modifyAt path (·.setAttr name value)).without name = d.without name := by
  cases path with
  | nil => exact absurd rfl below
  | cons i path =>
      exact congrArg (Document.mk (d.attrs.erase name))
        (Node.withoutIn_setAttr value (i :: path) d.children)

end Folio
