import Folio.Proofs.Markup.Place

namespace Folio

open Markup

/-!
# Listed places

Passes and collectors meet a page through paths: a walk lists them, and whoever holds a path looks
up what stands there, looks around it, or changes it, without walking again.  So a listed path has
to lead to an element with the asked property, no such element may be missed, and a change through
one path must not disturb what another one leads to.

Texts and comments count as children but are not listed.  A change of an element that keeps its
children therefore leaves all positions as they are, those of texts included.
-/

namespace Markup

def NodeLabel.text? : NodeLabel → Option String
  | .text s => some s
  | _ => none

/-- The text that a node is, if it is one. -/
def Node.text? (n : Node) : Option String := n.label.text?

namespace Element

/-- The texts among the children of an element, each at its position. -/
def ownTexts (e : Element) : List (Option String) := e.children.map Node.text?

/-- What an element is apart from the elements, comments and raw markup in it. -/
def surface (e : Element) : String × Dict String × List (Option String) :=
  (e.tag, e.attrs, e.ownTexts)

theorem nodeAt?_singleton (e : Element) (i : Nat) : e.toNode.nodeAt? [i] = e.children[i]? := by
  rw [toNode, Node.nodeAt?_cons_element]
  cases e.children[i]? with
  | none => rfl
  | some n => exact n.nodeAt?_nil

/-- Every proper front of a path that leads to an element leads to one that stands around it. -/
theorem map_some_ancestors {path : TreePath} {e c : Element} (atPath : e.at? path = some c) :
    (e.ancestors path).map some = (List.range path.length).map fun n => e.at? (path.take n) := by
  induction path generalizing e with
  | nil => rfl
  | cons i path inductionHypothesis =>
      rcases Option.bind_eq_some_iff.mp atPath with ⟨b, atChild, atPath⟩
      have below := inductionHypothesis atPath
      have through : (fun n => e.at? ((i :: path).take n)) ∘ Nat.succ =
          fun n => b.at? (path.take n) := by
        funext n
        rw [Function.comp_apply, List.take_succ_cons, at?_cons, atChild]
        rfl
      rw [ancestors, atChild, List.length_cons, List.range_succ_eq_map, List.map_cons,
        List.map_cons, List.map_map, through, ← below]
      rfl

/-- A search finds what stands at the first of the listed places. -/
theorem findBelow?_eq_bind_head? (e : Element) (p : Element → Bool) :
    e.findBelow? p = (e.allPaths p).head?.bind (at? · e) := by
  cases listed : e.allPaths p with
  | nil => exact findBelow?_eq_none_iff.mpr listed
  | cons path paths =>
      rcases findBelow?_eq_some listed with ⟨c, atPath, -, found⟩
      rw [found, List.head?_cons, Option.bind_some, atPath]

end Element

end Markup

namespace Document

theorem pairwise_allPaths (d : Document) (p : Element → Bool) :
    (d.allPaths p).Pairwise (· < ·) :=
  Node.pairwise_pathsFrom _ p 0 d.children

theorem outsideCode_iff {d : Document} {path : TreePath} :
    d.OutsideCode path ↔ ∀ front e, front <+: path → front ≠ [] → front ≠ path →
      d.at? front = some e → e.tag ≠ "pre" := by
  have entered (e : Element) : (!e.isCodeBlock) = true ↔ e.tag ≠ "pre" := by
    rw [Element.isCodeBlock, Bool.not_eq_true', beq_eq_false_iff_ne]
  simp only [OutsideCode, Element.Reaches, entered]
  rfl

theorem mem_pathsOutsideCode_iff_mem_allPaths {d : Document} {p : Element → Bool}
    {path : TreePath} :
    path ∈ d.pathsOutsideCode p ↔ path ∈ d.allPaths p ∧ d.OutsideCode path := by
  rw [mem_pathsOutsideCode_iff, mem_allPaths_iff, and_assoc]

section Change

variable {f : Element → Element} (keeps : ∀ e, (f e).children = e.children) (d : Document)
include keeps

theorem labelAt?_modifyAt {path other : TreePath} (different : other ≠ path) :
    (d.modifyAt path f).labelAt? other = d.labelAt? other := by
  by_cases atRoot : path = []
  · -- The root is not changed among siblings; what it holds is simply kept.
    subst atRoot
    cases other with
    | nil => exact absurd rfl different
    | cons i other => simp [labelAt?, Node.labelAt?, modifyAt, root, Element.toNode, keeps]
  · exact d.labelAt?_modifyAt_of_ne atRoot different keeps

/-- A change of an element makes no node a text and gives no text another wording. -/
theorem map_text?_nodeAt?_modifyAt (path place : TreePath) :
    ((d.modifyAt path f).nodeAt? place).map Node.text? = (d.nodeAt? place).map Node.text? := by
  by_cases same : place = path
  · subst same
    cases place with
    | nil => rfl
    | cons i place =>
        have changed := Node.nodeAtIn?_modifyAt_self f (i :: place) d.children
        change (Node.nodeAtIn? (i :: place) (Node.modifyAt f (i :: place) d.children)).map _ =
          (Node.nodeAtIn? (i :: place) d.children).map _
        rw [changed]
        cases Node.nodeAtIn? (i :: place) d.children with
        | none => rfl
        | some n => cases n <;> rfl
  · have labels := congrArg (Option.map NodeLabel.text?) (d.labelAt?_modifyAt keeps same)
    rwa [labelAt?, labelAt?, Node.labelAt?, Node.labelAt?, Option.map_map, Option.map_map]
      at labels

theorem map_surface_at?_modifyAt {path other : TreePath} (different : other ≠ path) :
    ((d.modifyAt path f).at? other).map Element.surface = (d.at? other).map Element.surface := by
  have heads := map_at?_of_labelAt?_eq Prod.mk (d.labelAt?_modifyAt keeps different)
  cases atOther : d.at? other with
  | none =>
      rw [atOther, Option.map_none, Option.map_eq_none_iff] at heads
      rw [heads, Option.map_none]
  | some e =>
      rw [atOther, Option.map_some, Option.map_eq_some_iff] at heads
      rcases heads with ⟨e', atOther', sameHead⟩
      have texts : e'.ownTexts = e.ownTexts := by
        apply List.ext_getElem?
        intro i
        have place := d.map_text?_nodeAt?_modifyAt keeps path (other ++ [i])
        rw [nodeAt?_append atOther', nodeAt?_append atOther, Element.nodeAt?_singleton,
          Element.nodeAt?_singleton] at place
        rw [Element.ownTexts, Element.ownTexts, List.getElem?_map, List.getElem?_map, place]
      have same : e'.surface = e.surface := by
        rw [Element.surface, Element.surface, texts, (Prod.mk.inj sameHead).1,
          (Prod.mk.inj sameHead).2]
      rw [atOther', Option.map_some, Option.map_some, same]

end Change

/-! ## The laws of paths -/

/-- A walk everywhere lists, in document order and each once, the paths to the elements below the
article that pass a test, and a walk outside code those of them that lead through no code block.
Around a listed place stand the elements at the proper fronts of its path.  A search finds what
stands at the first listed place.  A change of an element that keeps its children is made at its
path, and every other path leads to an element with the tag, the attributes and the texts that it
led to before. -/
theorem walks_list_places (d : Document) (p : Element → Bool) :
    ((d.allPaths p).Pairwise (· < ·) ∧
      ∀ path, path ∈ d.allPaths p ↔ path ≠ [] ∧ ∃ e, d.at? path = some e ∧ p e = true) ∧
    ((d.pathsOutsideCode p).Pairwise (· < ·) ∧
      ∀ path, path ∈ d.pathsOutsideCode p ↔ path ∈ d.allPaths p ∧
        ∀ front e, front <+: path → front ≠ [] → front ≠ path → d.at? front = some e →
          e.tag ≠ "pre") ∧
    (∀ path ∈ d.allPaths p,
      (d.ancestors path).map some = (List.range path.length).map fun n => d.at? (path.take n)) ∧
    d.root.findBelow? p = (d.allPaths p).head?.bind d.at? ∧
    ∀ path f, (∀ e, (f e).children = e.children) →
      (path ≠ [] → (d.modifyAt path f).at? path = (d.at? path).map f) ∧
      ∀ other ≠ path,
        ((d.modifyAt path f).at? other).map Element.surface =
          (d.at? other).map Element.surface := by
  refine ⟨⟨d.pairwise_allPaths p, fun path => mem_allPaths_iff⟩,
    ⟨d.pairwise_pathsOutsideCode p, ?_⟩, ?_, d.root.findBelow?_eq_bind_head? p, ?_⟩
  · intro path
    rw [mem_pathsOutsideCode_iff_mem_allPaths, outsideCode_iff]
  · intro path listed
    rcases (mem_allPaths_iff.mp listed).2 with ⟨e, atPath, -⟩
    exact Element.map_some_ancestors atPath
  · intro path f keeps
    exact ⟨fun below => d.at?_modifyAt_self below f,
      fun other different => d.map_surface_at?_modifyAt keeps different⟩

/-- A page with two paragraphs, one of them in a code block; a text and a comment take part in the
counting. -/
def countedPage : Document where
  children := [.text "See ", .element "section" (Dict.ofList [("id", "a")])
    [.element "p" Dict.empty [.text "One"], .comment "soon",
      .element "pre" Dict.empty [.element "p" Dict.empty []]]]

theorem walks_list_places_countedPage :
    [1, 2, 0] ∈ countedPage.allPaths (fun e => e.tag == "p") ∧
      [1, 2, 0] ∉ countedPage.pathsOutsideCode (fun e => e.tag == "p") ∧
      (countedPage.ancestors [1, 2, 0]).map some =
        [countedPage.at? [], countedPage.at? [1], countedPage.at? [1, 2]] ∧
      (∀ e : Element, (e.setAttr "id" "b").children = e.children) ∧ [1, 0] ≠ [1] ∧
      ((countedPage.modifyAt [1] (·.setAttr "id" "b")).at? [1, 0]).map Element.surface =
        some ("p", Dict.empty, [some "One"]) := by
  rcases walks_list_places countedPage fun e => e.tag == "p" with
    ⟨-, ⟨-, mem_outside_iff⟩, around, -, changes⟩
  have listed : [1, 2, 0] ∈ countedPage.allPaths fun e => e.tag == "p" := by decide +kernel
  refine ⟨listed, ?_, around [1, 2, 0] listed, fun _ => rfl, by decide, ?_⟩
  · intro outside
    rcases (mem_outside_iff [1, 2, 0]).mp outside with ⟨-, noCode⟩
    exact noCode [1, 2] _ (by decide) (by decide) (by decide) rfl rfl
  · exact (changes [1] (·.setAttr "id" "b") fun _ => rfl).2 [1, 0] (by decide)

end Document

end Folio
