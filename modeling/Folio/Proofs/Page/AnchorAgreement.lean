import Folio.Proofs.Page.AnchorAssignment
import Folio.Proofs.Page.MirrorPlace

namespace Folio

open Markup

/-!
# Identifiers of pages that agree

Of a page the run that gives out identifiers sees the identifiers and the texts, and nothing else.
Two pages agree if elements at aligned paths have the same identifiers and show the same texts.  A
step of the run writes an identifier, which changes no text and no other identifier; so steps at
aligned paths give out one identifier and keep the agreement.
-/

namespace Markup.Node

theorem shownTextOf_modify {change : Node → Node} (keeps : ∀ n, (change n).shownText = n.shownText)
    (nodes : List Node) (i : Nat) : shownTextOf (nodes.modify i change) = shownTextOf nodes := by
  induction nodes generalizing i with
  | nil => rw [List.modify_nil]
  | cons n nodes inductionHypothesis =>
      cases i with
      | zero => rw [List.modify_zero_cons, shownTextOf, shownTextOf, keeps]
      | succ i => rw [List.modify_succ_cons, shownTextOf, shownTextOf, inductionHypothesis]

/-- The text that a node shows, if it is an element. -/
def elementText? (n : Node) : Option String := n.element?.map Element.shownText

variable {f : Element → Element} (keeps : ∀ e, (f e).children = e.children)

include keeps

theorem shownTextOf_modifyAt (path : TreePath) (nodes : List Node) :
    shownTextOf (modifyAt f path nodes) = shownTextOf nodes := by
  induction path generalizing nodes with
  | nil => rw [modifyAt]
  | cons i path inductionHypothesis =>
      rw [modifyAt_cons]
      apply shownTextOf_modify
      intro n
      cases n with
      | element tag attrs children =>
          cases path with
          | nil => exact congrArg shownTextOf (keeps ⟨tag, attrs, children⟩)
          | cons j path => exact inductionHypothesis children
      | text s => rfl
      | comment s => rfl
      | raw markup => rfl

/-- A change that keeps children changes the text of no element. -/
theorem elementText?_modifyAt (path other : TreePath) (nodes : List Node) :
    (nodeAtIn? other (modifyAt f path nodes)).bind elementText? =
      (nodeAtIn? other nodes).bind elementText? := by
  have around : ∀ tag attrs path children,
      elementText? (.element tag attrs (modifyAt f path children)) =
        elementText? (.element tag attrs children) :=
    fun _ _ path children => congrArg some (shownTextOf_modifyAt keeps path children)
  have unseen : ∀ n, elementText? (mapElement f n) = elementText? n := by
    intro n
    cases n with
    | element tag attrs children =>
        exact congrArg (fun nodes => some (shownTextOf nodes)) (keeps ⟨tag, attrs, children⟩)
    | text s => rfl
    | comment s => rfl
    | raw markup => rfl
  have same : (nodeAtIn? other (modifyAt f path nodes)).map elementText? =
      (nodeAtIn? other nodes).map elementText? :=
    map_nodeAtIn?_modifyAt keeps around (fun _ => unseen) nodes
  simpa [Option.bind_map, Function.comp_def] using congrArg (Option.bind · id) same

end Markup.Node

namespace Document

theorem map_shownText_setId (d : Document) {path : TreePath} (below : path ≠ []) (id : String)
    (other : TreePath) :
    ((d.modifyAt path (·.setAttr "id" id)).at? other).map Element.shownText =
      (d.at? other).map Element.shownText := by
  have keeps : ∀ e : Element, (e.setAttr "id" id).children = e.children := fun _ => rfl
  cases path with
  | nil => exact absurd rfl below
  | cons i path =>
      cases other with
      | nil => exact congrArg some (Node.shownTextOf_modifyAt keeps (i :: path) d.children)
      | cons j other =>
          rw [at?_eq_nodeAt?, at?_eq_nodeAt?, Option.map_bind, Option.map_bind]
          exact Node.elementText?_modifyAt keeps (i :: path) (j :: other) d.children

theorem map_id?_setId_of_ne (d : Document) {path other : TreePath} (below : path ≠ [])
    (different : other ≠ path) (id : String) :
    ((d.modifyAt path (·.setAttr "id" id)).at? other).map Element.id? =
      (d.at? other).map Element.id? :=
  map_at?_of_labelAt?_eq (fun tag attrs => Element.id? ⟨tag, attrs, []⟩)
    (d.labelAt?_setId_of_ne below different id)

theorem map_id?_setId_self (d : Document) {path : TreePath} (below : path ≠ []) (id : String) :
    ((d.modifyAt path (·.setAttr "id" id)).at? path).map Element.id? =
      (d.at? path).map fun _ => (some id).filter (!·.isEmpty) := by
  rw [d.at?_modifyAt_self below, Option.map_map]
  congr 1
  funext e
  exact congrArg (Option.filter _) (Table.get?_insert_self e.attrs "id" id)

end Document

namespace Document

/-- A scope is read off the identifiers at the fronts of a path. -/
theorem scopeAt_eq (d : Document) (path : TreePath) :
    d.scopeAt path =
      ((List.range path.length).filterMap fun n =>
        (d.at? (path.take n)).map Element.id?).reverse.findSome? id := by
  rw [scopeAt, ancestors, Element.ancestors_eq_filterMap, ← List.map_filterMap,
    ← List.map_reverse, List.findSome?_map]
  rfl

/-- Whether two pages agree, their paths being aligned as those of two elements are. -/
structure Agree (e e' : Element) (d d' : Document) : Prop where
  ids : ∀ path, (d'.at? (e.align e' path)).map Element.id? = (d.at? path).map Element.id?
  texts : ∀ path,
    (d'.at? (e.align e' path)).map Element.shownText = (d.at? path).map Element.shownText

namespace Agree

variable {e e' : Element} {d d' : Document} (agree : Agree e e' d d')

include agree

theorem scopeAt_align (path : TreePath) : d'.scopeAt (e.align e' path) = d.scopeAt path := by
  have around : (fun n => (d'.at? ((e.align e' path).take n)).map Element.id?) =
      fun n => (d.at? (path.take n)).map Element.id? := by
    funext n
    rw [← Element.align_take, agree.ids]
  rw [scopeAt_eq, scopeAt_eq, around, Element.length_align]

/-- Writing an identifier at aligned paths keeps the agreement. -/
theorem setId {path : TreePath} (below : path ≠ []) (id : String) :
    Agree e e' (d.modifyAt path (·.setAttr "id" id))
      (d'.modifyAt (e.align e' path) (·.setAttr "id" id)) := by
  have below' : e.align e' path ≠ [] := fun empty => below ((e.align_eq_nil_iff e').mp empty)
  constructor
  · intro other
    by_cases same : other = path
    · subst same
      have found : (d'.at? (e.align e' other)).isSome = (d.at? other).isSome := by
        have ids := congrArg Option.isSome (agree.ids other)
        rwa [Option.isSome_map, Option.isSome_map] at ids
      rw [map_id?_setId_self d' below', map_id?_setId_self d below]
      cases first : d.at? other <;> cases second : d'.at? (e.align e' other) <;>
        simp [first, second] at found ⊢
    · have different : e.align e' other ≠ e.align e' path :=
        fun equal => same (e.align_injective e' equal)
      rw [map_id?_setId_of_ne d' below' different, map_id?_setId_of_ne d below same, agree.ids]
  · intro other
    rw [map_shownText_setId d' below', map_shownText_setId d below, agree.texts]

/-- One step at aligned paths gives out one identifier. -/
theorem assignAt {path : TreePath} (below : path ≠ []) (r : IdRegistry) :
    Agree e e' (d.assignAt r path).1 (d'.assignAt r (e.align e' path)).1 ∧
      (d'.assignAt r (e.align e' path)).2 = (d.assignAt r path).2 := by
  have ids := agree.ids path
  have texts := agree.texts path
  cases atPath : d.at? path with
  | none =>
      rw [atPath] at ids
      have nothing' : d'.at? (e.align e' path) = none := Option.map_eq_none_iff.mp ids
      rw [Document.assignAt, Document.assignAt, atPath, nothing']
      exact ⟨agree, rfl⟩
  | some c =>
      rw [atPath] at ids texts
      rcases Option.map_eq_some_iff.mp ids with ⟨c', atPath', sameId⟩
      rw [atPath'] at texts
      have candidate : anchorCandidate c' (d'.scopeAt (e.align e' path)) =
          anchorCandidate c (d.scopeAt path) := by
        rw [anchorCandidate, anchorCandidate, sameId, agree.scopeAt_align, Element.normalText,
          Element.normalText, Option.some.inj texts]
      rw [assignAt_of_at?_eq_some d r atPath, assignAt_of_at?_eq_some d' r atPath', candidate]
      exact ⟨agree.setId below _, rfl⟩

end Agree

/-- Runs along aligned paths keep the agreement. -/
theorem agree_foldl_assignAt {e e' : Element} {d d' : Document} {paths : List TreePath}
    (below : ∀ path ∈ paths, path ≠ []) (agree : Agree e e' d d') (r : IdRegistry) :
    Agree e e' (paths.foldl (fun s path => s.1.assignAt s.2 path) (d, r)).1
      ((paths.map (e.align e')).foldl (fun s path => s.1.assignAt s.2 path) (d', r)).1 := by
  induction paths generalizing d d' r with
  | nil => exact agree
  | cons path paths inductionHypothesis =>
      have step := agree.assignAt (below path List.mem_cons_self) r
      have next : d'.assignAt r (e.align e' path) =
          ((d'.assignAt r (e.align e' path)).1, (d.assignAt r path).2) :=
        Prod.ext rfl step.2
      rw [List.map_cons, List.foldl_cons, List.foldl_cons, next]
      exact inductionHypothesis (fun other member => below other (List.mem_cons_of_mem path member))
        step.1 (d.assignAt r path).2

/-! ## Pages that mirror each other -/

namespace Mirrors

variable {d d' : Document} (mirrors : d.Mirrors d')

include mirrors

theorem agree : Agree d.root d'.root d d' where
  ids := mirrors.map_at? steady_id?
  texts := mirrors.map_at? steady_shownText

omit mirrors in
theorem not_contains_align (paths : List TreePath) :
    (fun path => !(paths.map (d.align d')).contains path) ∘ d.align d' =
      fun path => !paths.contains path := by
  funext path
  apply congrArg not
  apply Bool.eq_iff_iff.mpr
  rw [List.contains_iff_mem, List.contains_iff_mem]
  exact List.mem_map_of_injective (d.root.align_injective d'.root)

theorem anchorTargets_eq : d'.anchorTargets = d.anchorTargets.map (d.align d') := by
  have structural : Overlooks isStructural :=
    (overlooks_isHeading.or overlooks_isCallout).or (overlooks_tag (by decide))
  simp only [anchorTargets]
  rw [mirrors.pathsOutsideCode_eq structural, mirrors.fullTextPaths_eq, List.filter_map,
    not_contains_align, List.map_append]

theorem bind_id?_align (path : TreePath) :
    (d'.at? (d.align d' path)).bind Element.id? = (d.at? path).bind Element.id? := by
  have own (d : Document) (path : TreePath) :
      (d.at? path).bind Element.id? = ((d.at? path).map Element.id?).bind id := by
    rw [Option.bind_map]
    rfl
  rw [own, own, mirrors.map_at? steady_id?]

theorem anchorOrder_eq : d'.anchorOrder = d.anchorOrder.map (d.align d') := by
  have explicit (path : TreePath) : d'.hasIdAt (d.align d' path) = d.hasIdAt path := by
    rw [hasIdAt, hasIdAt, mirrors.bind_id?_align]
  have generated : (fun path => !d'.hasIdAt path) ∘ d.align d' = fun path => !d.hasIdAt path :=
    funext fun path => congrArg not (explicit path)
  simp only [anchorOrder]
  rw [mirrors.anchorTargets_eq, List.filter_map, List.filter_map, generated, List.map_append]
  congr 3
  exact funext explicit

theorem reservedIds_eq : d'.reservedIds = d.reservedIds := by
  have read : (fun path => (d'.at? path).bind Element.id?) ∘ d.align d' =
      fun path => (d.at? path).bind Element.id? := funext mirrors.bind_id?_align
  simp only [reservedIds]
  rw [mirrors.allPaths_eq overlooks_hasId, mirrors.anchorTargets_eq, List.filter_map,
    not_contains_align, List.filterMap_map, read, steady_id? _ _ mirrors]

/-- The identifiers of assigned pages are the same if the pages mirror each other. -/
theorem map_id?_assignAnchors (path : TreePath) :
    (d'.assignAnchors.at? (d.align d' path)).map Element.id? =
      (d.assignAnchors.at? path).map Element.id? := by
  have below : ∀ path ∈ d.anchorOrder, path ≠ [] :=
    fun path member => (mem_anchorOrder_iff.mp member).ne_nil
  rw [assignAnchors, assignAnchors, mirrors.anchorOrder_eq, mirrors.reservedIds_eq]
  exact (agree_foldl_assignAt below mirrors.agree d.reservedIds).ids path

end Mirrors

end Document

end Folio
