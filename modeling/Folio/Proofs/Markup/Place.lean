import Folio.Page.Document

namespace Folio
namespace Markup

/-!
# Places in a tree

A path leads to a node of any kind, and what stands at a place apart from its children is the label
of the place.  The labels of all places determine a tree, so a change is described completely by
saying which labels it leaves alone and what it does to the others.

The walks of the library list paths.  Here it is told without a walk which paths they list: those
that lead to an element with the asked property and pass only through elements that may be entered.
They are listed in document order, each once.
-/

namespace Node

/-- A statement holds of every node if an element inherits it from its children. -/
@[induction_eliminator]
theorem induction {motive : Node → Prop}
    (element : ∀ tag attrs children, (∀ child ∈ children, motive child) →
      motive (.element tag attrs children))
    (text : ∀ s, motive (.text s)) (comment : ∀ s, motive (.comment s))
    (raw : ∀ markup, motive (.raw markup)) : ∀ n, motive n
  | .element tag attrs children => element tag attrs children fun child member =>
      have := List.sizeOf_lt_of_mem member
      induction element text comment raw child
  | .text s => text s
  | .comment s => comment s
  | .raw markup => raw markup

/-- The node that a path leads to, counted from a node itself. -/
def nodeAt? : TreePath → Node → Option Node
  | [], n => some n
  | i :: path, .element _ _ children => children[i]?.bind (nodeAt? path)
  | _ :: _, _ => none

/-- The node that a path leads to, counted from a list of siblings. -/
def nodeAtIn? : TreePath → List Node → Option Node
  | [], _ => none
  | i :: path, nodes => nodes[i]?.bind (nodeAt? path)

@[simp] theorem nodeAt?_nil (n : Node) : n.nodeAt? [] = some n := by
  cases n <;> rfl

@[simp] theorem nodeAt?_cons_element (i : Nat) (path : TreePath) (tag : String)
    (attrs : Dict String) (children : List Node) :
    (element tag attrs children).nodeAt? (i :: path) = children[i]?.bind (nodeAt? path) := rfl

theorem nodeAt?_append (front back : TreePath) (n : Node) :
    n.nodeAt? (front ++ back) = (n.nodeAt? front).bind (nodeAt? back) := by
  induction front generalizing n with
  | nil => simp
  | cons i front inductionHypothesis =>
      cases n with
      | element tag attrs children =>
          rw [List.cons_append, nodeAt?_cons_element, nodeAt?_cons_element]
          cases children[i]? with
          | none => rfl
          | some child => exact inductionHypothesis child
      | text s => rfl
      | comment s => rfl
      | raw markup => rfl

end Node

/-- What a node is apart from what it holds; of an element's children only the number counts. -/
inductive NodeLabel where
  | element (tag : String) (attrs : Dict String) (size : Nat)
  | text (text : String)
  | comment (text : String)
  | raw (markup : String)
  deriving DecidableEq

namespace Node

def label : Node → NodeLabel
  | .element tag attrs children => .element tag attrs children.length
  | .text s => .text s
  | .comment s => .comment s
  | .raw markup => .raw markup

/-- The label of the place that a path leads to. -/
def labelAt? (n : Node) (path : TreePath) : Option NodeLabel := (n.nodeAt? path).map label

/-- Two trees with the same labels are the same tree. -/
theorem eq_of_labelAt?_eq {first second : Node}
    (agree : ∀ path, first.labelAt? path = second.labelAt? path) : first = second := by
  induction first generalizing second with
  | element tag attrs children inductionHypothesis =>
      have atRoot := agree []
      cases second with
      | element tag' attrs' children' =>
          simp only [labelAt?, nodeAt?_nil, Option.map_some, label, Option.some.injEq,
            NodeLabel.element.injEq] at atRoot
          rcases atRoot with ⟨sameTag, sameAttrs, sameLength⟩
          have sameChildren : children = children' := by
            apply List.ext_getElem sameLength
            intro i bound bound'
            apply inductionHypothesis _ (List.getElem_mem bound)
            intro path
            have below := agree (i :: path)
            simpa [labelAt?, List.getElem?_eq_getElem bound, List.getElem?_eq_getElem bound']
              using below
          rw [sameTag, sameAttrs, sameChildren]
      | text s => simp [labelAt?, label] at atRoot
      | comment s => simp [labelAt?, label] at atRoot
      | raw markup => simp [labelAt?, label] at atRoot
  | text s =>
      have atRoot := agree []
      cases second <;> simp_all [labelAt?, label]
  | comment s =>
      have atRoot := agree []
      cases second <;> simp_all [labelAt?, label]
  | raw markup =>
      have atRoot := agree []
      cases second <;> simp_all [labelAt?, label]

/-- A change of elements, as a change of nodes: other nodes stay. -/
def mapElement (f : Element → Element) : Node → Node
  | .element tag attrs children => (f ⟨tag, attrs, children⟩).toNode
  | n => n

theorem modifyAt_cons (f : Element → Element) (i : Nat) (path : TreePath) (nodes : List Node) :
    modifyAt f (i :: path) nodes = nodes.modify i fun
      | .element tag attrs children =>
        match path with
        | [] => (f ⟨tag, attrs, children⟩).toNode
        | _ :: _ => .element tag attrs (modifyAt f path children)
      | n => n := by
  cases path <;> rfl

@[simp] theorem length_modifyAt (f : Element → Element) (path : TreePath) (nodes : List Node) :
    (modifyAt f path nodes).length = nodes.length := by
  cases path with
  | nil => simp [modifyAt]
  | cons i path => rw [modifyAt_cons, List.length_modify]

/-- At its own path a change is made. -/
theorem nodeAtIn?_modifyAt_self (f : Element → Element) (path : TreePath) (nodes : List Node) :
    nodeAtIn? path (modifyAt f path nodes) = (nodeAtIn? path nodes).map (mapElement f) := by
  induction path generalizing nodes with
  | nil => rfl
  | cons i path inductionHypothesis =>
      rw [modifyAt_cons, nodeAtIn?, nodeAtIn?, List.getElem?_modify_eq]
      cases nodes[i]? with
      | none => rfl
      | some n =>
          cases n with
          | element tag attrs children =>
              cases path with
              | nil => simp [mapElement]
              | cons j path => exact inductionHypothesis children
          | text s => cases path <;> rfl
          | comment s => cases path <;> rfl
          | raw markup => cases path <;> rfl

/-- A change that keeps children is not seen at a path by a view that neither sees it in the node
that it is made of, if the path leads there, nor in the nodes around that one. -/
theorem map_nodeAtIn?_modifyAt {α : Type} {f : Element → Element} {view : Node → α}
    (keeps : ∀ e, (f e).children = e.children)
    (around : ∀ tag attrs path children,
      view (.element tag attrs (modifyAt f path children)) = view (.element tag attrs children))
    {path other : TreePath} (unseen : other = path → ∀ n, view (mapElement f n) = view n)
    (nodes : List Node) :
    (nodeAtIn? other (modifyAt f path nodes)).map view = (nodeAtIn? other nodes).map view := by
  induction path generalizing other nodes with
  | nil => rw [modifyAt]
  | cons i path inductionHypothesis =>
      cases other with
      | nil => rfl
      | cons j other =>
          rw [modifyAt_cons, nodeAtIn?, nodeAtIn?]
          by_cases same : i = j
          · -- The change is made below the child that the other path goes through.
            subst same
            rw [List.getElem?_modify_eq]
            have below : other = path → ∀ n, view (mapElement f n) = view n :=
              fun equal => unseen (equal ▸ rfl)
            cases nodes[i]? with
            | none => rfl
            | some n =>
                cases n with
                | element tag attrs children =>
                    cases path with
                    | nil =>
                        cases other with
                        | nil => exact congrArg some (below rfl (.element tag attrs children))
                        | cons k other => simp [Element.toNode, keeps]
                    | cons k path =>
                        cases other with
                        | nil => exact congrArg some (around tag attrs (k :: path) children)
                        | cons l other => exact inductionHypothesis below children
                | text s => rfl
                | comment s => rfl
                | raw markup => rfl
          · rw [List.getElem?_modify_ne _ _ same]

/-- At every other path a change that keeps children leaves the label alone. -/
theorem label_nodeAtIn?_modifyAt_of_ne {f : Element → Element}
    (keeps : ∀ e, (f e).children = e.children) {path other : TreePath} (different : other ≠ path)
    (nodes : List Node) :
    (nodeAtIn? other (modifyAt f path nodes)).map label = (nodeAtIn? other nodes).map label :=
  map_nodeAtIn?_modifyAt keeps (fun tag attrs _ _ => by simp [label])
    (fun same => absurd same different) nodes

end Node

namespace Element

theorem element?_toNode (e : Element) : e.toNode.element? = some e := rfl

theorem child?_eq_some_iff {e c : Element} {i : Nat} :
    e.child? i = some c ↔ e.children[i]? = some c.toNode := by
  rw [child?, Option.bind_eq_some_iff]
  constructor
  · rintro ⟨n, atChild, isElement⟩
    cases n with
    | element tag attrs children =>
        rw [atChild, ← Option.some.inj isElement]
        rfl
    | text s => cases isElement
    | comment s => cases isElement
    | raw markup => cases isElement
  · intro atChild
    exact ⟨c.toNode, atChild, rfl⟩

/-- The child that comes behind some others. -/
theorem child?_of_divided {e : Element} {front back : List Node} {n : Node}
    (divided : e.children = front ++ n :: back) : e.child? front.length = n.element? := by
  rw [child?, divided, List.getElem?_append_right (Nat.le_refl _), Nat.sub_self]
  rfl

theorem at?_cons (i : Nat) (path : TreePath) (e : Element) :
    e.at? (i :: path) = (e.child? i).bind (at? path) := rfl

theorem at?_singleton (i : Nat) (e : Element) : e.at? [i] = e.child? i :=
  Option.bind_fun_some (e.child? i)

theorem at?_eq_nodeAt? (path : TreePath) (e : Element) :
    e.at? path = (e.toNode.nodeAt? path).bind Node.element? := by
  induction path generalizing e with
  | nil => simp [at?, element?_toNode]
  | cons i path inductionHypothesis =>
      rw [at?_cons, toNode, Node.nodeAt?_cons_element, child?]
      cases e.children[i]? with
      | none => rfl
      | some n =>
          cases n with
          | element tag attrs children => exact inductionHypothesis ⟨tag, attrs, children⟩
          | text s => cases path <;> rfl
          | comment s => cases path <;> rfl
          | raw markup => cases path <;> rfl

theorem at?_append (front back : TreePath) (e : Element) :
    e.at? (front ++ back) = (e.at? front).bind (at? back) := by
  induction front generalizing e with
  | nil => rfl
  | cons i front inductionHypothesis =>
      rw [List.cons_append, at?_cons, at?_cons]
      cases e.child? i with
      | none => rfl
      | some c => exact inductionHypothesis c

/-- Elements hold the same if all places below have the same labels. -/
theorem children_eq_of_labelAt?_eq {first second : Element}
    (agree : ∀ path ≠ [], first.toNode.labelAt? path = second.toNode.labelAt? path) :
    first.children = second.children := by
  apply List.ext_getElem?
  intro i
  have below : ∀ path, (first.children[i]?.bind (Node.nodeAt? path)).map Node.label =
      (second.children[i]?.bind (Node.nodeAt? path)).map Node.label :=
    fun path => agree (i :: path) (by simp)
  cases atFirst : first.children[i]? with
  | none =>
      cases atSecond : second.children[i]? with
      | none => rfl
      | some n =>
          have here := below []
          simp [atFirst, atSecond] at here
  | some m =>
      cases atSecond : second.children[i]? with
      | none =>
          have here := below []
          simp [atFirst, atSecond] at here
      | some n =>
          rw [atFirst, atSecond] at below
          exact congrArg some (Node.eq_of_labelAt?_eq below)

/-- What stands around the element at a path stands at the proper fronts of the path. -/
theorem mem_ancestors_iff {path : TreePath} {e a : Element} :
    a ∈ e.ancestors path ↔ ∃ front, front <+: path ∧ front ≠ path ∧ e.at? front = some a := by
  induction path generalizing e with
  | nil =>
      constructor
      · intro member
        cases member
      · rintro ⟨front, isFront, proper, -⟩
        exact absurd (List.prefix_nil.mp isFront) proper
  | cons i path inductionHypothesis =>
      have unfolded : a ∈ e.ancestors (i :: path) ↔
          a = e ∨ ∃ c, e.child? i = some c ∧ a ∈ c.ancestors path := by
        rw [ancestors, List.mem_cons]
        cases e.child? i <;> simp
      rw [unfolded]
      constructor
      · rintro (same | ⟨c, atChild, member⟩)
        · exact ⟨[], List.nil_prefix, by simp, by rw [same]; rfl⟩
        · rcases inductionHypothesis.mp member with ⟨front, isFront, proper, atFront⟩
          exact ⟨i :: front, List.cons_prefix_cons.mpr ⟨rfl, isFront⟩, by simpa using proper,
            by rw [at?_cons, atChild]; exact atFront⟩
      · rintro ⟨front, isFront, proper, atFront⟩
        cases front with
        | nil => exact Or.inl (Option.some.inj atFront).symm
        | cons j front =>
            rcases List.cons_prefix_cons.mp isFront with ⟨rfl, tailFront⟩
            rcases Option.bind_eq_some_iff.mp atFront with ⟨c, atChild, atFront⟩
            exact Or.inr ⟨c, atChild,
              inductionHypothesis.mpr ⟨front, tailFront, by simpa using proper, atFront⟩⟩

/-- What stands around a path is what stands at its fronts, from the outside in. -/
theorem ancestors_eq_filterMap (e : Element) (path : TreePath) :
    e.ancestors path = (List.range path.length).filterMap fun n => e.at? (path.take n) := by
  induction path generalizing e with
  | nil => rfl
  | cons i path inductionHypothesis =>
      rw [ancestors, List.length_cons, List.range_succ_eq_map, List.filterMap_cons,
        List.filterMap_map]
      change e :: _ = e :: _
      congr 1
      cases atChild : e.child? i with
      | none => simp [Function.comp_def, at?_cons, atChild]
      | some c => simp [Function.comp_def, at?_cons, atChild, inductionHypothesis c]

theorem ancestors_append (front back : TreePath) (e : Element) :
    e.ancestors (front ++ back) = e.ancestors front ++ ((e.at? front).map (ancestors back)).getD [] := by
  induction front generalizing e with
  | nil => rfl
  | cons i front inductionHypothesis =>
      rw [List.cons_append, ancestors, ancestors, at?_cons]
      cases e.child? i with
      | none => rfl
      | some c => exact congrArg (e :: ·) (inductionHypothesis c)

theorem ancestors_concat (e : Element) (path : TreePath) (i : Nat) :
    e.ancestors (path ++ [i]) = e.ancestors path ++ (e.at? path).toList := by
  rw [ancestors_append]
  cases e.at? path with
  | none => rfl
  | some c =>
      change _ ++ c :: ((c.child? i).map (ancestors [])).getD [] = _ ++ [c]
      cases c.child? i <;> rfl

/-! ## Which paths a walk lists -/

/-- Whether a walk that goes below those elements that pass `enter` comes to a path: it enters every
element that stands strictly between the root and the place. -/
def Reaches (enter : Element → Bool) (e : Element) (path : TreePath) : Prop :=
  ∀ front c, front <+: path → front ≠ [] → front ≠ path → e.at? front = some c → enter c = true

theorem reaches_cons_iff {enter : Element → Bool} {e c : Element} {i : Nat} {path : TreePath}
    (atChild : e.child? i = some c) :
    e.Reaches enter (i :: path) ↔ path = [] ∨ (enter c = true ∧ c.Reaches enter path) := by
  constructor
  · intro reaches
    by_cases atEnd : path = []
    · exact Or.inl atEnd
    · refine Or.inr ⟨?_, ?_⟩
      · exact reaches [i] c (by simp) (by simp) (by simpa using Ne.symm atEnd)
          (by rw [at?_cons, atChild]; rfl)
      · intro front b isFront _ proper atFront
        exact reaches (i :: front) b (List.cons_prefix_cons.mpr ⟨rfl, isFront⟩) (by simp)
          (by simpa using proper) (by rw [at?_cons, atChild]; exact atFront)
  · rintro (rfl | ⟨entered, reaches⟩) front b isFront nonempty proper atFront
    · cases front with
      | nil => exact absurd rfl nonempty
      | cons j front =>
          rcases List.cons_prefix_cons.mp isFront with ⟨rfl, tailFront⟩
          exact absurd (by rw [List.prefix_nil.mp tailFront]) proper
    · cases front with
      | nil => exact absurd rfl nonempty
      | cons j front =>
          rcases List.cons_prefix_cons.mp isFront with ⟨rfl, tailFront⟩
          rw [at?_cons, atChild] at atFront
          by_cases first : front = []
          · subst first
            exact Option.some.inj atFront ▸ entered
          · exact reaches front b tailFront first (by simpa using proper) atFront

end Element

namespace Node

variable {enter p : Element → Bool}

theorem mem_paths_iff {n : Node} {path : TreePath} :
    path ∈ n.paths enter p ↔ ∃ e, n.element? = some e ∧
      ((path = [] ∧ p e = true) ∨ (enter e = true ∧ path ∈ pathsFrom enter p 0 e.children)) := by
  cases n with
  | element tag attrs children =>
      rw [paths, List.mem_append]
      by_cases passes : p ⟨tag, attrs, children⟩ <;>
        by_cases entered : enter ⟨tag, attrs, children⟩ <;>
        simp [element?, passes, entered]
  | text s => simp [paths, element?]
  | comment s => simp [paths, element?]
  | raw markup => simp [paths, element?]

theorem mem_pathsFrom_iff {i : Nat} {nodes : List Node} {path : TreePath} :
    path ∈ pathsFrom enter p i nodes ↔
      ∃ k n rest, nodes[k]? = some n ∧ path = (i + k) :: rest ∧ rest ∈ n.paths enter p := by
  induction nodes generalizing i with
  | nil => simp [pathsFrom]
  | cons n nodes inductionHypothesis =>
      rw [pathsFrom, List.mem_append, inductionHypothesis, List.mem_map]
      constructor
      · rintro (⟨rest, listed, rfl⟩ | ⟨k, m, rest, atPlace, rfl, listed⟩)
        · exact ⟨0, n, rest, rfl, rfl, listed⟩
        · exact ⟨k + 1, m, rest, atPlace, by rw [Nat.add_right_comm, Nat.add_assoc], listed⟩
      · rintro ⟨k, m, rest, atPlace, rfl, listed⟩
        cases k with
        | zero =>
            have same : n = m := by simpa using atPlace
            subst same
            exact Or.inl ⟨rest, listed, rfl⟩
        | succ k =>
            exact Or.inr ⟨k, m, rest, atPlace, by rw [Nat.add_right_comm, Nat.add_assoc], listed⟩

end Node

namespace Element

variable {enter p : Element → Bool}

/-- A walk lists exactly the paths that it reaches and that lead to an element with the property. -/
theorem mem_pathsFrom_iff {e : Element} {path : TreePath} :
    path ∈ Node.pathsFrom enter p 0 e.children ↔
      path ≠ [] ∧ (∃ c, e.at? path = some c ∧ p c = true) ∧ e.Reaches enter path := by
  induction path generalizing e with
  | nil => simp [Node.mem_pathsFrom_iff]
  | cons i path inductionHypothesis =>
      have unfolded : i :: path ∈ Node.pathsFrom enter p 0 e.children ↔
          ∃ c, e.child? i = some c ∧ ((path = [] ∧ p c = true) ∨
            (enter c = true ∧ path ∈ Node.pathsFrom enter p 0 c.children)) := by
        rw [Node.mem_pathsFrom_iff]
        constructor
        · rintro ⟨k, n, rest, atPlace, equal, listed⟩
          have same : i = k ∧ path = rest := by simpa using equal
          rcases same with ⟨rfl, rfl⟩
          rcases Node.mem_paths_iff.mp listed with ⟨c, isElement, cases⟩
          exact ⟨c, by rw [child?, atPlace]; exact isElement, cases⟩
        · rintro ⟨c, atChild, cases⟩
          rcases Option.bind_eq_some_iff.mp atChild with ⟨n, atPlace, isElement⟩
          exact ⟨i, n, path, atPlace, by simp, Node.mem_paths_iff.mpr ⟨c, isElement, cases⟩⟩
      rw [unfolded]
      constructor
      · rintro ⟨c, atChild, ⟨rfl, passes⟩ | ⟨entered, listed⟩⟩
        · exact ⟨by simp, ⟨c, by rw [at?_cons, atChild]; rfl, passes⟩,
            (reaches_cons_iff atChild).mpr (Or.inl rfl)⟩
        · rcases inductionHypothesis.mp listed with ⟨-, ⟨b, atPath, passes⟩, reaches⟩
          exact ⟨by simp, ⟨b, by rw [at?_cons, atChild]; exact atPath, passes⟩,
            (reaches_cons_iff atChild).mpr (Or.inr ⟨entered, reaches⟩)⟩
      · rintro ⟨-, ⟨b, atPath, passes⟩, reaches⟩
        rcases Option.bind_eq_some_iff.mp atPath with ⟨c, atChild, atPath⟩
        refine ⟨c, atChild, ?_⟩
        rcases (reaches_cons_iff atChild).mp reaches with rfl | ⟨entered, reaches⟩
        · exact Or.inl ⟨rfl, Option.some.inj atPath ▸ passes⟩
        · by_cases atEnd : path = []
          · subst atEnd
            exact Or.inl ⟨rfl, Option.some.inj atPath ▸ passes⟩
          · exact Or.inr ⟨entered,
              inductionHypothesis.mpr ⟨atEnd, ⟨b, atPath, passes⟩, reaches⟩⟩

end Element

namespace Node

/-- A list of siblings is walked in order if each of them is. -/
private theorem pairwise_pathsFrom_of_children {enter p : Element → Bool} {nodes : List Node}
    (ordered : ∀ n ∈ nodes, (n.paths enter p).Pairwise (· < ·)) (i : Nat) :
    (pathsFrom enter p i nodes).Pairwise (· < ·) := by
  induction nodes generalizing i with
  | nil => exact List.Pairwise.nil
  | cons n nodes inductionHypothesis =>
      rw [pathsFrom, List.pairwise_append]
      refine ⟨?_, inductionHypothesis (fun m member => ordered m (List.mem_cons_of_mem n member)) _,
        ?_⟩
      · rw [List.pairwise_map]
        exact (ordered n List.mem_cons_self).imp
          fun before => List.cons_lt_cons_iff.mpr (Or.inr ⟨rfl, before⟩)
      · intro first listedFirst second listedSecond
        rcases List.mem_map.mp listedFirst with ⟨rest, -, rfl⟩
        rcases mem_pathsFrom_iff.mp listedSecond with ⟨k, m, rest', -, rfl, -⟩
        exact List.cons_lt_cons_iff.mpr (Or.inl (by omega))

theorem pairwise_paths (enter p : Element → Bool) (n : Node) :
    (n.paths enter p).Pairwise (· < ·) := by
  induction n with
  | element tag attrs children inductionHypothesis =>
      rw [paths, List.pairwise_append]
      refine ⟨?_, ?_, ?_⟩
      · split <;> simp
      · split
        · exact pairwise_pathsFrom_of_children inductionHypothesis 0
        · exact List.Pairwise.nil
      · intro first listedFirst second listedSecond
        have first_eq : first = [] := by
          split at listedFirst <;> simp_all
        subst first_eq
        split at listedSecond
        · rcases mem_pathsFrom_iff.mp listedSecond with ⟨k, m, rest, -, rfl, -⟩
          exact List.nil_lt_cons _ _
        · cases listedSecond
  | text s => exact List.Pairwise.nil
  | comment s => exact List.Pairwise.nil
  | raw markup => exact List.Pairwise.nil

/-- A walk lists paths in document order, which is the lexicographic order of paths. -/
theorem pairwise_pathsFrom (enter p : Element → Bool) (i : Nat) (nodes : List Node) :
    (pathsFrom enter p i nodes).Pairwise (· < ·) :=
  pairwise_pathsFrom_of_children (fun n _ => pairwise_paths enter p n) i

theorem nodup_pathsFrom (enter p : Element → Bool) (i : Nat) (nodes : List Node) :
    (pathsFrom enter p i nodes).Nodup := by
  apply (pairwise_pathsFrom enter p i nodes).imp
  intro first second before same
  rw [same] at before
  exact List.lt_irrefl second before

mutual

private theorem find?_eq_findSome?_paths {p : Element → Bool} : ∀ n : Node,
    n.find? p = (n.paths (fun _ => true) p).findSome? fun path => n.element?.bind (Element.at? path)
  | .element tag attrs children => by
      rw [find?, paths, List.findSome?_append]
      have below := findIn?_eq_findSome?_pathsFrom (p := p) children ⟨tag, attrs, children⟩ [] rfl
      split
      · rfl
      · simpa [element?] using below
  | .text _ => rfl
  | .comment _ => rfl
  | .raw _ => rfl

/-- A search finds what stands at the first place that a walk everywhere lists.  The walk counts
from the children `front` of `e` that it has left behind. -/
private theorem findIn?_eq_findSome?_pathsFrom {p : Element → Bool} :
    ∀ (nodes : List Node) (e : Element) (front : List Node), e.children = front ++ nodes →
      findIn? p nodes = (pathsFrom (fun _ => true) p front.length nodes).findSome? (Element.at? · e)
  | [], _, _, _ => rfl
  | n :: nodes, e, front, divided => by
      have later := findIn?_eq_findSome?_pathsFrom (p := p) nodes e (front ++ [n])
        (by rw [divided, List.append_assoc]; rfl)
      have child : e.child? front.length = n.element? := Element.child?_of_divided divided
      have through : (Element.at? · e) ∘ (front.length :: ·) =
          fun path => n.element?.bind (Element.at? path) := by
        funext path
        rw [Function.comp_apply, Element.at?_cons, child]
      rw [List.length_append] at later
      rw [findIn?, pathsFrom, List.findSome?_append, List.findSome?_map, through,
        ← find?_eq_findSome?_paths n]
      exact congrArg _ later

end

end Node

namespace Element

variable {e : Element} {p : Element → Bool}

theorem mem_allPaths_iff {path : TreePath} :
    path ∈ e.allPaths p ↔ path ≠ [] ∧ ∃ c, e.at? path = some c ∧ p c = true := by
  rw [allPaths, mem_pathsFrom_iff]
  constructor
  · rintro ⟨nonempty, found, -⟩
    exact ⟨nonempty, found⟩
  · rintro ⟨nonempty, found⟩
    exact ⟨nonempty, found, fun _ _ _ _ _ _ => rfl⟩

theorem findBelow?_eq_findSome? (e : Element) (p : Element → Bool) :
    e.findBelow? p = (e.allPaths p).findSome? (at? · e) :=
  Node.findIn?_eq_findSome?_pathsFrom e.children e [] rfl

/-- What a search below an element finds stands at the first of the paths that are listed. -/
theorem findBelow?_eq_some {path : TreePath} {paths : List TreePath}
    (listed : e.allPaths p = path :: paths) :
    ∃ c, e.at? path = some c ∧ p c = true ∧ e.findBelow? p = some c := by
  have first : path ∈ e.allPaths p := listed ▸ List.mem_cons_self
  rcases (mem_allPaths_iff.mp first).2 with ⟨c, atPath, passes⟩
  refine ⟨c, atPath, passes, ?_⟩
  rw [findBelow?_eq_findSome?, listed, List.findSome?_cons, atPath]

theorem findBelow?_eq_none_iff : e.findBelow? p = none ↔ e.allPaths p = [] := by
  cases listed : e.allPaths p with
  | nil => simp [findBelow?_eq_findSome?, listed]
  | cons path paths =>
      rcases findBelow?_eq_some listed with ⟨c, -, -, found⟩
      simp [found]

/-- A search that finds nothing has looked at every place. -/
theorem find?_eq_none_iff :
    e.toNode.find? p = none ↔ ∀ path c, e.at? path = some c → p c = false := by
  have unfolded : e.toNode.find? p = if p e then some e else e.findBelow? p := by
    rw [toNode, Node.find?]
    rfl
  constructor
  · intro found path c atPath
    rw [unfolded] at found
    split at found
    · cases found
    · next fails =>
        rw [Bool.eq_false_iff]
        intro passes
        by_cases atEnd : path = []
        · rw [atEnd] at atPath
          exact fails (Option.some.inj atPath ▸ passes)
        · have member := mem_allPaths_iff.mpr ⟨atEnd, c, atPath, passes⟩
          rw [findBelow?_eq_none_iff.mp found] at member
          cases member
  · intro fails
    have here : p e = false := fails [] e rfl
    rw [unfolded, here, if_neg Bool.false_ne_true, findBelow?_eq_none_iff,
      List.eq_nil_iff_forall_not_mem]
    intro path member
    rcases (mem_allPaths_iff.mp member).2 with ⟨c, atPath, passes⟩
    rw [fails path c atPath] at passes
    cases passes

end Element

end Markup

/-! ## Places in a document -/

open Markup

namespace Document

def nodeAt? (d : Document) (path : TreePath) : Option Node := d.root.toNode.nodeAt? path

def labelAt? (d : Document) (path : TreePath) : Option NodeLabel := d.root.toNode.labelAt? path

/-- Whether a path leads to a place that is not inside a code block; the place itself may be one. -/
def OutsideCode (d : Document) (path : TreePath) : Prop :=
  d.root.Reaches (fun c => !c.isCodeBlock) path

/-- What stands at the front of a path outside code is outside code. -/
theorem OutsideCode.of_prefix {d : Document} {front path : TreePath} (outside : d.OutsideCode path)
    (isFront : front <+: path) : d.OutsideCode front := by
  intro inner c innerFront nonempty proper atInner
  apply outside inner c (innerFront.trans isFront) nonempty _ atInner
  rintro rfl
  exact proper (innerFront.eq_of_length (Nat.le_antisymm innerFront.length_le isFront.length_le))

theorem at?_append {d : Document} {path : TreePath} {e : Element} (atPath : d.at? path = some e)
    (rest : TreePath) : d.at? (path ++ rest) = e.at? rest := by
  rw [at?, Element.at?_append, ← at?, atPath]
  rfl

theorem at?_eq_nodeAt? (d : Document) (path : TreePath) :
    d.at? path = (d.nodeAt? path).bind Node.element? :=
  Element.at?_eq_nodeAt? path d.root

/-- Two documents with the same labels are the same document. -/
theorem eq_of_labelAt?_eq {d d' : Document} (agree : ∀ path, d.labelAt? path = d'.labelAt? path) :
    d = d' := by
  have roots : d.root.toNode = d'.root.toNode := Node.eq_of_labelAt?_eq agree
  cases d
  cases d'
  simpa [root, Element.toNode] using roots

/-- The element at a path, read off the label. -/
theorem labelAt?_eq_some_iff {d : Document} {path : TreePath} {tag : String} {attrs : Dict String}
    {size : Nat} :
    d.labelAt? path = some (.element tag attrs size) ↔
      ∃ e, d.at? path = some e ∧ e.tag = tag ∧ e.attrs = attrs ∧ e.children.length = size := by
  rw [at?_eq_nodeAt?, labelAt?, Node.labelAt?, ← nodeAt?]
  cases d.nodeAt? path with
  | none => simp
  | some n => cases n <;> simp [Node.label, Node.element?]

/-- Elements with one label look the same to a view of tag and attributes. -/
theorem map_at?_of_labelAt?_eq {α : Type} (view : String → Dict String → α) {d d' : Document}
    {path path' : TreePath} (same : d.labelAt? path = d'.labelAt? path') :
    (d.at? path).map (fun e => view e.tag e.attrs) =
      (d'.at? path').map fun e => view e.tag e.attrs := by
  have read (d : Document) (path : TreePath) :
      (d.at? path).map (fun e => view e.tag e.attrs) =
        (d.labelAt? path).bind fun label =>
          match label with
          | .element tag attrs _ => some (view tag attrs)
          | _ => none := by
    rw [at?_eq_nodeAt?, labelAt?, Node.labelAt?, ← nodeAt?]
    cases d.nodeAt? path with
    | none => rfl
    | some n => cases n <;> rfl
  rw [read, read, same]

theorem nodeAt?_of_at?_eq_some {d : Document} {path : TreePath} {e : Element}
    (atPath : d.at? path = some e) : d.nodeAt? path = some e.toNode := by
  rw [at?_eq_nodeAt?, Option.bind_eq_some_iff] at atPath
  rcases atPath with ⟨n, atNode, isElement⟩
  rw [atNode]
  cases n with
  | element tag attrs children => exact Option.some.inj isElement ▸ rfl
  | text s => cases isElement
  | comment s => cases isElement
  | raw markup => cases isElement

theorem nodeAt?_append {d : Document} {path : TreePath} {e : Element}
    (atPath : d.at? path = some e) (rest : TreePath) :
    d.nodeAt? (path ++ rest) = e.toNode.nodeAt? rest := by
  rw [nodeAt?, Node.nodeAt?_append, ← nodeAt?, nodeAt?_of_at?_eq_some atPath]
  rfl

theorem labelAt?_append {d : Document} {path : TreePath} {e : Element}
    (atPath : d.at? path = some e) (rest : TreePath) :
    d.labelAt? (path ++ rest) = e.toNode.labelAt? rest :=
  congrArg (Option.map Node.label) (nodeAt?_append atPath rest)

theorem mem_allPaths_iff {d : Document} {p : Element → Bool} {path : TreePath} :
    path ∈ d.allPaths p ↔ path ≠ [] ∧ ∃ e, d.at? path = some e ∧ p e = true :=
  Element.mem_allPaths_iff

theorem mem_pathsOutsideCode_iff {d : Document} {p : Element → Bool} {path : TreePath} :
    path ∈ d.pathsOutsideCode p ↔
      path ≠ [] ∧ (∃ e, d.at? path = some e ∧ p e = true) ∧ d.OutsideCode path :=
  Element.mem_pathsFrom_iff

theorem nodup_pathsOutsideCode (d : Document) (p : Element → Bool) :
    (d.pathsOutsideCode p).Nodup :=
  Node.nodup_pathsFrom _ p 0 d.children

theorem pairwise_pathsOutsideCode (d : Document) (p : Element → Bool) :
    (d.pathsOutsideCode p).Pairwise (· < ·) :=
  Node.pairwise_pathsFrom _ p 0 d.children

theorem at?_modifyAt_self (d : Document) {path : TreePath} (below : path ≠ [])
    (f : Element → Element) : (d.modifyAt path f).at? path = (d.at? path).map f := by
  cases path with
  | nil => exact absurd rfl below
  | cons i path =>
      have changed := Node.nodeAtIn?_modifyAt_self f (i :: path) d.children
      rw [at?_eq_nodeAt?, at?_eq_nodeAt?]
      change (Node.nodeAtIn? (i :: path) (Node.modifyAt f (i :: path) d.children)).bind _ = _
      rw [changed]
      change _ = ((Node.nodeAtIn? (i :: path) d.children).bind _).map f
      cases Node.nodeAtIn? (i :: path) d.children with
      | none => rfl
      | some n => cases n <;> rfl

theorem labelAt?_modifyAt_of_ne (d : Document) {path other : TreePath} (below : path ≠ [])
    (different : other ≠ path) {f : Element → Element}
    (keeps : ∀ e, (f e).children = e.children) :
    (d.modifyAt path f).labelAt? other = d.labelAt? other := by
  cases path with
  | nil => exact absurd rfl below
  | cons i path =>
      cases other with
      | nil => simp [labelAt?, Node.labelAt?, modifyAt, root, Element.toNode, Node.label]
      | cons j other =>
          exact Node.label_nodeAtIn?_modifyAt_of_ne keeps different d.children

end Document

end Folio
