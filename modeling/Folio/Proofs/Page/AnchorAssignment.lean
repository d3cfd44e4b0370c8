import Folio.Proofs.Page.FullTextPath
import Folio.Proofs.Page.IdRegistry
import Mathlib.Data.List.Sort

namespace Folio

open Markup

/-!
# The identifiers of a finished page

Assigning anchors is a run over the targets of a page, which writes one identifier after the other
into the tree.  The run is told here by what it writes: a list of paths, each with the identifier
that it is given.  No identifier of the list is in use before, and none is given twice.  Writing
them changes one attribute at each of the paths and leaves every other label of the tree alone, so
the paths that were collected before the run lead to the same elements all the time.
-/

theorem shortDigest_ne_empty (text : String) : shortDigest text ≠ "" := by
  intro empty
  have lengths := congrArg (fun s => s.toList.length) empty
  simp [shortDigest, Digest.hexWord] at lengths

theorem Markup.Element.id?_eq_some_iff {e : Element} {id : String} :
    e.id? = some id ↔ e.attr? "id" = some id ∧ id ≠ "" := by
  rw [Element.id?, Option.filter_eq_some_iff]
  simp

theorem anchorCandidate_ne_empty (e : Element) (scope : Option String) :
    anchorCandidate e scope ≠ "" := by
  rw [anchorCandidate]
  cases own : e.id? with
  | some id => exact (Element.id?_eq_some_iff.mp own).2
  | none =>
      intro empty
      rw [Option.getD_none, String.append_eq_empty_iff] at empty
      exact shortDigest_ne_empty _ empty.2

namespace Document

/-- A document with identifiers written at some paths, one after the other. -/
def withIds (d : Document) (given : List (TreePath × String)) : Document :=
  given.foldl (fun d g => d.modifyAt g.1 (·.setAttr "id" g.2)) d

/-- Writing an identifier at one path leaves the labels of the others alone. -/
theorem labelAt?_setId_of_ne (d : Document) {path other : TreePath} (below : path ≠ [])
    (different : other ≠ path) (id : String) :
    (d.modifyAt path (·.setAttr "id" id)).labelAt? other = d.labelAt? other :=
  d.labelAt?_modifyAt_of_ne below different fun _ => rfl

theorem labelAt?_setId_self (d : Document) {path : TreePath} (below : path ≠ []) {e : Element}
    (atPath : d.at? path = some e) (id : String) :
    (d.modifyAt path (·.setAttr "id" id)).labelAt? path =
      some (.element e.tag (e.attrs.insert "id" id) e.children.length) := by
  rw [labelAt?_eq_some_iff, at?_modifyAt_self d below, atPath]
  exact ⟨e.setAttr "id" id, rfl, rfl, rfl, rfl⟩

/-- Where a label is kept, an element stays one. -/
theorem isSome_at?_iff (d : Document) (path : TreePath) :
    (d.at? path).isSome ↔ ∃ tag attrs size, d.labelAt? path = some (.element tag attrs size) := by
  rw [Option.isSome_iff_exists]
  constructor
  · rintro ⟨e, atPath⟩
    exact ⟨_, _, _, labelAt?_eq_some_iff.mpr ⟨e, atPath, rfl, rfl, rfl⟩⟩
  · rintro ⟨tag, attrs, size, labelled⟩
    rcases labelAt?_eq_some_iff.mp labelled with ⟨e, atPath, -⟩
    exact ⟨e, atPath⟩

theorem labelAt?_withIds_of_not_mem (d : Document) {given : List (TreePath × String)}
    (below : ∀ g ∈ given, g.1 ≠ []) {path : TreePath} (other : path ∉ given.map Prod.fst) :
    (d.withIds given).labelAt? path = d.labelAt? path := by
  induction given generalizing d with
  | nil => rfl
  | cons g given inductionHypothesis =>
      rw [List.map_cons, List.mem_cons, not_or] at other
      have later := inductionHypothesis (d.modifyAt g.1 (·.setAttr "id" g.2))
        (fun g' member => below g' (List.mem_cons_of_mem g member)) other.2
      exact later.trans (d.labelAt?_setId_of_ne (below g List.mem_cons_self) other.1 g.2)

theorem labelAt?_withIds_of_mem (d : Document) {given : List (TreePath × String)}
    (below : ∀ g ∈ given, g.1 ≠ []) (once : (given.map Prod.fst).Nodup) {path : TreePath}
    {id : String} (member : (path, id) ∈ given) {e : Element} (atPath : d.at? path = some e) :
    (d.withIds given).labelAt? path =
      some (.element e.tag (e.attrs.insert "id" id) e.children.length) := by
  induction given generalizing d e with
  | nil => cases member
  | cons g given inductionHypothesis =>
      rw [List.map_cons, List.nodup_cons] at once
      have belowRest : ∀ g' ∈ given, g'.1 ≠ [] :=
        fun g' later => below g' (List.mem_cons_of_mem g later)
      rcases List.mem_cons.mp member with rfl | later
      · -- The first write is the one at `path`; those that follow go elsewhere.
        have kept := (d.modifyAt path (·.setAttr "id" id)).labelAt?_withIds_of_not_mem
          belowRest once.1
        exact kept.trans (d.labelAt?_setId_self (below _ List.mem_cons_self) atPath id)
      · -- The first write goes elsewhere, so the label at `path` is still the one it had.
        have different : path ≠ g.1 :=
          fun same => once.1 (same ▸ List.mem_map_of_mem later)
        have kept := d.labelAt?_setId_of_ne (below g List.mem_cons_self) different g.2
        have labelled : d.labelAt? path = some (.element e.tag e.attrs e.children.length) :=
          labelAt?_eq_some_iff.mpr ⟨e, atPath, rfl, rfl, rfl⟩
        rcases labelAt?_eq_some_iff.mp (kept.trans labelled) with
          ⟨e', atPath', sameTag, sameAttrs, sameSize⟩
        have final := inductionHypothesis (d.modifyAt g.1 (·.setAttr "id" g.2)) belowRest once.2
          later atPath'
        rw [sameTag, sameAttrs, sameSize] at final
        exact final

/-! ## The run over the targets -/

/-- The identifiers that are given out along a list of paths, each with its path. -/
def assignments : List TreePath → Document × IdRegistry → List (TreePath × String)
  | [], _ => []
  | path :: paths, s =>
    match s.1.at? path with
    | none => assignments paths s
    | some e =>
      (path, s.2.unique (anchorCandidate e (s.1.scopeAt path))) ::
        assignments paths (s.1.assignAt s.2 path)

theorem assignAt_of_at?_eq_some (d : Document) (r : IdRegistry) {path : TreePath} {e : Element}
    (atPath : d.at? path = some e) :
    d.assignAt r path =
      (d.modifyAt path (·.setAttr "id" (r.unique (anchorCandidate e (d.scopeAt path)))),
        r.register (r.unique (anchorCandidate e (d.scopeAt path)))) := by
  rw [assignAt, atPath]
  rfl

/-- A run writes what it gives out, and nothing else. -/
theorem foldl_assignAt_eq_withIds (paths : List TreePath) (s : Document × IdRegistry) :
    (paths.foldl (fun s path => s.1.assignAt s.2 path) s).1 =
      s.1.withIds (assignments paths s) := by
  induction paths generalizing s with
  | nil => rfl
  | cons path paths inductionHypothesis =>
      rw [List.foldl_cons, inductionHypothesis, assignments]
      cases atPath : s.1.at? path with
      | none =>
          have same : s.1.assignAt s.2 path = s := by rw [assignAt, atPath]
          simp only [same]
      | some e =>
          simp only [assignAt_of_at?_eq_some s.1 s.2 atPath]
          rfl

/-- One step of a run keeps the elements where they are. -/
theorem isSome_at?_assignAt (d : Document) (r : IdRegistry) {path other : TreePath}
    (below : path ≠ []) (found : (d.at? other).isSome) :
    ((d.assignAt r path).1.at? other).isSome := by
  cases atPath : d.at? path with
  | none => rw [assignAt, atPath]; exact found
  | some e =>
      rw [assignAt_of_at?_eq_some d r atPath]
      by_cases same : other = path
      · rw [same, at?_modifyAt_self d below, atPath]
        rfl
      · rw [isSome_at?_iff] at found ⊢
        rw [labelAt?_setId_of_ne d below same]
        exact found

/-- Every path that leads to an element is given an identifier, in the order of the list. -/
theorem map_fst_assignments (paths : List TreePath) (s : Document × IdRegistry)
    (below : ∀ path ∈ paths, path ≠ []) (found : ∀ path ∈ paths, (s.1.at? path).isSome) :
    (assignments paths s).map Prod.fst = paths := by
  induction paths generalizing s with
  | nil => rfl
  | cons path paths inductionHypothesis =>
      rcases Option.isSome_iff_exists.mp (found path List.mem_cons_self) with ⟨e, atPath⟩
      have later := inductionHypothesis (s.1.assignAt s.2 path)
        (fun other member => below other (List.mem_cons_of_mem path member))
        (fun other member => isSome_at?_assignAt s.1 s.2 (below path List.mem_cons_self)
          (found other (List.mem_cons_of_mem path member)))
      simp only [assignments, atPath, List.map_cons, later]

/-- What is given out is no empty identifier and none that is in use before the run. -/
theorem assignments_fresh (paths : List TreePath) (s : Document × IdRegistry) :
    ∀ g ∈ assignments paths s, g.2 ≠ "" ∧ g.2 ∉ s.2.ids := by
  induction paths generalizing s with
  | nil => intro g member; cases member
  | cons path paths inductionHypothesis =>
      intro g member
      cases atPath : s.1.at? path with
      | none =>
          rw [assignments, atPath] at member
          exact inductionHypothesis s g member
      | some e =>
          rw [assignments, atPath] at member
          rcases List.mem_cons.mp member with rfl | later
          · exact ⟨IdRegistry.unique_ne_empty _ (anchorCandidate_ne_empty e _),
              IdRegistry.unique_not_mem _ _⟩
          · rw [assignAt_of_at?_eq_some s.1 s.2 atPath] at later
            rcases inductionHypothesis _ g later with ⟨nonempty, free⟩
            rw [IdRegistry.mem_register_iff, not_or] at free
            exact ⟨nonempty, free.2⟩

/-- No identifier is given out twice. -/
theorem nodup_map_snd_assignments (paths : List TreePath) (s : Document × IdRegistry) :
    ((assignments paths s).map Prod.snd).Nodup := by
  induction paths generalizing s with
  | nil => exact List.nodup_nil
  | cons path paths inductionHypothesis =>
      cases atPath : s.1.at? path with
      | none =>
          rw [assignments, atPath]
          exact inductionHypothesis s
      | some e =>
          rw [assignments, atPath, assignAt_of_at?_eq_some s.1 s.2 atPath]
          refine List.nodup_cons.mpr ⟨?_, inductionHypothesis _⟩
          intro again
          rcases List.mem_map.mp again with ⟨g, member, same⟩
          have free := (assignments_fresh _ _ g member).2
          rw [IdRegistry.mem_register_iff, not_or] at free
          exact free.1 same

/-- A turn of a run: at that time all that was given out at earlier turns is written and in use. -/
theorem exists_turn_of_assignments {paths : List TreePath} {s : Document × IdRegistry}
    {earlier later : List (TreePath × String)} {path : TreePath} {id : String}
    (divided : assignments paths s = earlier ++ (path, id) :: later) :
    ∃ (r : IdRegistry) (e : Element), (s.1.withIds earlier).at? path = some e ∧
      id = r.unique (anchorCandidate e ((s.1.withIds earlier).scopeAt path)) ∧
      ∀ other, other ∈ r.ids ↔ other ∈ s.2.ids ∨ other ∈ earlier.map Prod.snd := by
  induction paths generalizing s earlier with
  | nil => cases earlier <;> cases divided
  | cons first paths inductionHypothesis =>
      rw [assignments] at divided
      cases atFirst : s.1.at? first with
      | none =>
          rw [atFirst] at divided
          exact inductionHypothesis divided
      | some e =>
          rw [atFirst] at divided
          cases earlier with
          | nil =>
              rcases Prod.mk.inj (List.cons.inj divided).1 with ⟨rfl, rfl⟩
              exact ⟨s.2, e, atFirst, rfl, fun other => by simp⟩
          | cons g earlier =>
              rcases List.cons.inj divided with ⟨rfl, dividedRest⟩
              rw [assignAt_of_at?_eq_some s.1 s.2 atFirst] at dividedRest
              rcases inductionHypothesis dividedRest with ⟨r, now, atPath, given, inUse⟩
              refine ⟨r, now, atPath, given, fun other => ?_⟩
              rw [inUse, IdRegistry.mem_register_iff, List.map_cons, List.mem_cons, or_assoc,
                or_left_comm]

/-- The places that get an identifier of their own: headings, callouts and figures below the root
and outside code, and the fragments of running text. -/
def IsAnchorTarget (d : Document) (path : TreePath) : Prop :=
  (path ≠ [] ∧ (∃ e, d.at? path = some e ∧ isStructural e = true) ∧ d.OutsideCode path) ∨
    path ∈ d.fullTextPaths

theorem mem_anchorTargets_iff {d : Document} {path : TreePath} :
    path ∈ d.anchorTargets ↔ d.IsAnchorTarget path := by
  rw [anchorTargets, IsAnchorTarget, ← mem_pathsOutsideCode_iff, List.mem_append, List.mem_filter]
  by_cases structural : path ∈ d.pathsOutsideCode isStructural
  · simp [structural]
  · simp [structural]

theorem nodup_anchorTargets (d : Document) : d.anchorTargets.Nodup := by
  rw [anchorTargets, List.nodup_append]
  refine ⟨d.nodup_pathsOutsideCode _, d.nodup_fullTextPaths.filter _, ?_⟩
  intro first structural second fragment same
  have others := (List.mem_filter.mp fragment).2
  rw [← same] at others
  simp [structural] at others

theorem mem_anchorOrder_iff {d : Document} {path : TreePath} :
    path ∈ d.anchorOrder ↔ d.IsAnchorTarget path := by
  rw [anchorOrder, List.mem_append, List.mem_filter, List.mem_filter, ← mem_anchorTargets_iff]
  cases d.hasIdAt path <;> simp

theorem nodup_anchorOrder (d : Document) : d.anchorOrder.Nodup := by
  rw [anchorOrder, List.nodup_append]
  refine ⟨d.nodup_anchorTargets.filter _, d.nodup_anchorTargets.filter _, ?_⟩
  intro first explicit second generated same
  have has := (List.mem_filter.mp explicit).2
  have lacks := (List.mem_filter.mp generated).2
  rw [← same, has] at lacks
  cases lacks

theorem IsAnchorTarget.ne_nil {d : Document} {path : TreePath} (target : d.IsAnchorTarget path) :
    path ≠ [] := by
  rcases target with structural | fragment
  · exact structural.1
  · exact (place_of_mem_fullTextPaths fragment).1

theorem IsAnchorTarget.exists_element {d : Document} {path : TreePath}
    (target : d.IsAnchorTarget path) : ∃ e, d.at? path = some e := by
  rcases target with ⟨-, ⟨e, atPath, -⟩, -⟩ | fragment
  · exact ⟨e, atPath⟩
  · rcases place_of_mem_fullTextPaths fragment with ⟨-, ⟨e, atPath, -⟩, -⟩
    exact ⟨e, atPath⟩

/-- What is reserved before the run: the identifiers of the elements that are no targets, whether
they are the root or stand inside code. -/
theorem mem_reservedIds_iff {d : Document} {id : String} :
    id ∈ d.reservedIds.ids ↔
      ∃ path e, ¬ d.IsAnchorTarget path ∧ d.at? path = some e ∧ e.id? = some id := by
  rw [reservedIds, IdRegistry.mem_foldl_register_iff, List.mem_append]
  simp only [Option.mem_toList, List.mem_filterMap, List.mem_filter, mem_allPaths_iff,
    Option.bind_eq_some_iff, List.not_mem_nil, or_false]
  constructor
  · rintro (own | ⟨path, ⟨-, other⟩, e, atPath, own⟩)
    · exact ⟨[], d.root, fun target => target.ne_nil rfl, rfl, own⟩
    · refine ⟨path, e, ?_, atPath, own⟩
      rw [← mem_anchorTargets_iff]
      simpa using other
  · rintro ⟨path, e, other, atPath, own⟩
    rw [← mem_anchorTargets_iff] at other
    by_cases atRoot : path = []
    · subst atRoot
      have same : d.root = e := Option.some.inj atPath
      subst same
      exact Or.inl own
    · exact Or.inr ⟨path, ⟨⟨atRoot, e, atPath, by rw [own]; rfl⟩, by simpa using other⟩,
        e, atPath, own⟩

/-! ## The assigned page -/

/-- The identifiers that a page is given, each with its path. -/
def givenIds (d : Document) : List (TreePath × String) :=
  assignments d.anchorOrder (d, d.reservedIds)

theorem assignAnchors_eq_withIds (d : Document) : d.assignAnchors = d.withIds d.givenIds :=
  foldl_assignAt_eq_withIds d.anchorOrder (d, d.reservedIds)

theorem map_fst_givenIds (d : Document) : d.givenIds.map Prod.fst = d.anchorOrder := by
  apply map_fst_assignments
  · intro path member
    exact (mem_anchorOrder_iff.mp member).ne_nil
  · intro path member
    rcases (mem_anchorOrder_iff.mp member).exists_element with ⟨e, atPath⟩
    rw [atPath]
    rfl

theorem ne_nil_of_mem_givenIds (d : Document) : ∀ g ∈ d.givenIds, g.1 ≠ [] := by
  intro g member
  have listed : g.1 ∈ d.givenIds.map Prod.fst := List.mem_map_of_mem member
  rw [map_fst_givenIds] at listed
  exact (mem_anchorOrder_iff.mp listed).ne_nil

/-- An element has one turn. -/
theorem not_mem_earlier {d : Document} {earlier later : List (TreePath × String)} {path : TreePath}
    {id : String} (divided : d.givenIds = earlier ++ (path, id) :: later) :
    path ∉ earlier.map Prod.fst := by
  have once := d.nodup_anchorOrder
  rw [← map_fst_givenIds, divided, List.map_append, List.nodup_append] at once
  exact fun isEarlier => once.2.2 path isEarlier path List.mem_cons_self rfl

/-- A place that is no target keeps its label. -/
theorem labelAt?_assignAnchors_of_not_target {d : Document} {path : TreePath}
    (other : ¬ d.IsAnchorTarget path) : d.assignAnchors.labelAt? path = d.labelAt? path := by
  rw [assignAnchors_eq_withIds]
  apply labelAt?_withIds_of_not_mem d d.ne_nil_of_mem_givenIds
  rwa [map_fst_givenIds, mem_anchorOrder_iff]

/-- A target keeps its label, apart from the identifier that it is given. -/
theorem exists_given_of_target {d : Document} {path : TreePath} (target : d.IsAnchorTarget path)
    {e : Element} (atPath : d.at? path = some e) :
    ∃ id, (path, id) ∈ d.givenIds ∧ d.assignAnchors.labelAt? path =
      some (.element e.tag (e.attrs.insert "id" id) e.children.length) := by
  have listed := mem_anchorOrder_iff.mpr target
  rw [← map_fst_givenIds] at listed
  rcases List.mem_map.mp listed with ⟨⟨path', id⟩, member, rfl⟩
  refine ⟨id, member, ?_⟩
  rw [assignAnchors_eq_withIds]
  apply labelAt?_withIds_of_mem d d.ne_nil_of_mem_givenIds _ member atPath
  rw [map_fst_givenIds]
  exact d.nodup_anchorOrder

/-- Assigning anchors keeps an element where it is, with its tag, its number of children and all
attributes but the identifier; at a place that is no target it keeps that too. -/
theorem exists_at?_assignAnchors {d : Document} {path : TreePath} {e : Element}
    (atPath : d.at? path = some e) :
    ∃ e', d.assignAnchors.at? path = some e' ∧ e'.tag = e.tag ∧
      (∀ name, name ≠ "id" → e'.attr? name = e.attr? name) ∧
      (¬ d.IsAnchorTarget path → e'.attrs = e.attrs) := by
  by_cases target : d.IsAnchorTarget path
  · rcases exists_given_of_target target atPath with ⟨id, -, labelled⟩
    rcases labelAt?_eq_some_iff.mp labelled with ⟨e', atPath', sameTag, changedAttrs, -⟩
    refine ⟨e', atPath', sameTag, ?_, fun other => absurd target other⟩
    intro name different
    rw [Element.attr?, changedAttrs, Table.get?_insert_of_ne _ _ different]
    rfl
  · have labelled : d.labelAt? path = some (.element e.tag e.attrs e.children.length) :=
      labelAt?_eq_some_iff.mpr ⟨e, atPath, rfl, rfl, rfl⟩
    rw [← labelAt?_assignAnchors_of_not_target target] at labelled
    rcases labelAt?_eq_some_iff.mp labelled with ⟨e', atPath', sameTag, sameAttrs, -⟩
    refine ⟨e', atPath', sameTag, ?_, fun _ => sameAttrs⟩
    intro name _
    rw [Element.attr?, sameAttrs]
    rfl

/-- Assigning anchors puts in no elements: each that it leaves was there, and is kept like that. -/
theorem exists_at?_of_assignAnchors {d : Document} {path : TreePath} {e' : Element}
    (atPath' : d.assignAnchors.at? path = some e') :
    ∃ e, d.at? path = some e ∧ e'.tag = e.tag ∧
      (∀ name, name ≠ "id" → e'.attr? name = e.attr? name) ∧
      (¬ d.IsAnchorTarget path → e'.attrs = e.attrs) := by
  have found : ∃ e, d.at? path = some e := by
    by_cases target : d.IsAnchorTarget path
    · exact target.exists_element
    · have labelled := labelAt?_eq_some_iff.mpr ⟨e', atPath', rfl, rfl, rfl⟩
      rw [labelAt?_assignAnchors_of_not_target target] at labelled
      rcases labelAt?_eq_some_iff.mp labelled with ⟨e, atPath, -⟩
      exact ⟨e, atPath⟩
  rcases found with ⟨e, atPath⟩
  rcases exists_at?_assignAnchors atPath with ⟨e'', same, kept⟩
  have equal : e'' = e' := Option.some.inj (same.symm.trans atPath')
  exact ⟨e, atPath, equal ▸ kept⟩

/-- Assigning anchors moves nothing into code or out of it. -/
theorem outsideCode_assignAnchors_iff (d : Document) (path : TreePath) :
    d.assignAnchors.OutsideCode path ↔ d.OutsideCode path := by
  have kept : ∀ c c' : Element, c'.tag = c.tag → (!c'.isCodeBlock) = !c.isCodeBlock := by
    intro c c' sameTag
    rw [Element.isCodeBlock, Element.isCodeBlock, sameTag]
  constructor
  · intro outside front c isFront below proper atFront
    rcases exists_at?_assignAnchors atFront with ⟨c', atFront', sameTag, -⟩
    exact (kept c c' sameTag).symm.trans (outside front c' isFront below proper atFront')
  · intro outside front c' isFront below proper atFront'
    rcases exists_at?_of_assignAnchors atFront' with ⟨c, atFront, sameTag, -⟩
    exact (kept c c' sameTag).trans (outside front c isFront below proper atFront)

/-- A walk outside code lists the same places before and after, if its test reads neither
identifiers nor what an element holds. -/
theorem pathsOutsideCode_assignAnchors (d : Document) {p : Element → Bool}
    (kept : ∀ e e' : Element, e'.tag = e.tag →
      (∀ name, name ≠ "id" → e'.attr? name = e.attr? name) → p e' = p e) :
    d.assignAnchors.pathsOutsideCode p = d.pathsOutsideCode p := by
  apply (Node.pairwise_pathsFrom _ _ 0 _).eq_of_mem_iff (Node.pairwise_pathsFrom _ _ 0 _)
  intro path
  change path ∈ d.assignAnchors.pathsOutsideCode _ ↔ path ∈ d.pathsOutsideCode _
  rw [mem_pathsOutsideCode_iff, mem_pathsOutsideCode_iff, outsideCode_assignAnchors_iff]
  have found : (∃ e, d.assignAnchors.at? path = some e ∧ p e = true) ↔
      ∃ e, d.at? path = some e ∧ p e = true := by
    constructor
    · rintro ⟨e', atPath', passes⟩
      rcases exists_at?_of_assignAnchors atPath' with ⟨e, atPath, sameTag, sameAttrs, -⟩
      exact ⟨e, atPath, (kept e e' sameTag sameAttrs).symm.trans passes⟩
    · rintro ⟨e, atPath, passes⟩
      rcases exists_at?_assignAnchors atPath with ⟨e', atPath', sameTag, sameAttrs, -⟩
      exact ⟨e', atPath', (kept e e' sameTag sameAttrs).trans passes⟩
  rw [found]

/-- The identifier of the element at a path. -/
def idAt? (d : Document) (path : TreePath) : Option String := (d.at? path).bind Element.id?

theorem idAt?_of_labelAt?_eq {d d' : Document} {path : TreePath}
    (same : d.labelAt? path = d'.labelAt? path) : d.idAt? path = d'.idAt? path := by
  have read (d : Document) : d.idAt? path =
      ((d.at? path).map fun e => Element.id? ⟨e.tag, e.attrs, []⟩).bind id := by
    rw [Option.bind_map]
    rfl
  rw [read, read, map_at?_of_labelAt?_eq (fun tag attrs => Element.id? ⟨tag, attrs, []⟩) same]

/-- Up to the turn of an element, places that have had no turn keep their identifiers. -/
theorem idAt?_withIds_earlier {d : Document} {earlier later : List (TreePath × String)}
    (divided : d.givenIds = earlier ++ later) {path : TreePath}
    (notYet : path ∉ earlier.map Prod.fst) : (d.withIds earlier).idAt? path = d.idAt? path := by
  apply idAt?_of_labelAt?_eq
  apply labelAt?_withIds_of_not_mem d _ notYet
  exact fun g isGiven => d.ne_nil_of_mem_givenIds g (divided ▸ List.mem_append_left _ isGiven)

/-- The value of the identifier attribute at a path; an empty one counts here. -/
def idAttrAt? (d : Document) (path : TreePath) : Option String :=
  (d.at? path).bind (·.attr? "id")

theorem idAttrAt?_of_labelAt?_eq {d : Document} {path : TreePath} {tag : String}
    {attrs : Dict String} {size : Nat}
    (labelled : d.labelAt? path = some (.element tag attrs size)) :
    d.idAttrAt? path = attrs.get? "id" := by
  rcases labelAt?_eq_some_iff.mp labelled with ⟨e, atPath, -, sameAttrs, -⟩
  rw [idAttrAt?, atPath, ← sameAttrs]
  rfl

theorem idAttrAt?_assignAnchors_of_mem {d : Document} {path : TreePath} {id : String}
    (member : (path, id) ∈ d.givenIds) : d.assignAnchors.idAttrAt? path = some id := by
  have target : d.IsAnchorTarget path := by
    rw [← mem_anchorOrder_iff, ← map_fst_givenIds]
    exact List.mem_map_of_mem member
  rcases target.exists_element with ⟨e, atPath⟩
  rcases exists_given_of_target target atPath with ⟨id', member', labelled⟩
  have once : (d.givenIds.map Prod.fst).Nodup := by
    rw [map_fst_givenIds]
    exact d.nodup_anchorOrder
  have same : (path, id') = (path, id) := List.inj_on_of_nodup_map once member' member rfl
  rw [idAttrAt?_of_labelAt?_eq labelled, Table.get?_insert_self, (Prod.mk.inj same).2]

theorem idAttrAt?_assignAnchors_of_not_mem {d : Document} {path : TreePath}
    (other : path ∉ d.givenIds.map Prod.fst) : d.assignAnchors.idAttrAt? path = d.idAttrAt? path := by
  have kept : d.assignAnchors.labelAt? path = d.labelAt? path := by
    apply labelAt?_assignAnchors_of_not_target
    rwa [← mem_anchorOrder_iff, ← map_fst_givenIds]
  have read (d : Document) :
      d.idAttrAt? path = ((d.at? path).map fun e => e.attrs.get? "id").bind id := by
    rw [Option.bind_map]
    rfl
  rw [read, read, map_at?_of_labelAt?_eq (fun _ attrs => attrs.get? "id") kept]

/-- The identifier that a target is given is in use nowhere else in the finished page: not at
another target, since none is given twice, and not at any other element, since those identifiers
are reserved. -/
theorem idAttrAt?_assignAnchors_ne {d : Document} {path other : TreePath} {id : String}
    (member : (path, id) ∈ d.givenIds) (different : other ≠ path) :
    d.assignAnchors.idAttrAt? other ≠ some id := by
  intro same
  have fresh := assignments_fresh _ _ _ member
  by_cases target : d.IsAnchorTarget other
  · rcases target.exists_element with ⟨e, atPath⟩
    rcases exists_given_of_target target atPath with ⟨id', member', labelled⟩
    rw [idAttrAt?_of_labelAt?_eq labelled, Table.get?_insert_self] at same
    have equal : (other, id') = (path, id) :=
      List.inj_on_of_nodup_map (nodup_map_snd_assignments _ _) member' member
        (Option.some.inj same)
    exact different (congrArg Prod.fst equal)
  · rw [idAttrAt?] at same
    rcases Option.bind_eq_some_iff.mp same with ⟨e', atPath', own'⟩
    rcases exists_at?_of_assignAnchors atPath' with ⟨e, atPath, -, -, kept⟩
    have own : e.attr? "id" = some id := by
      rw [Element.attr?, ← kept target]
      exact own'
    exact fresh.2 (mem_reservedIds_iff.mpr
      ⟨other, e, target, atPath, Element.id?_eq_some_iff.mpr ⟨own, fresh.1⟩⟩)

/-- In the assigned page every target has an identifier that no other element has, whether that
one is a target, the root, or inside code.  Only the identifier attribute of targets has changed:
every other label of the tree is kept, and so is the rest of the label of a target. -/
theorem assignAnchors_unique_ids (d : Document) :
    (∀ path, d.IsAnchorTarget path → ∃ e id, d.at? path = some e ∧ id ≠ "" ∧
      d.assignAnchors.labelAt? path =
        some (.element e.tag (e.attrs.insert "id" id) e.children.length) ∧
      d.assignAnchors.idAttrAt? path = some id ∧
      ∀ other, other ≠ path → d.assignAnchors.idAttrAt? other ≠ some id) ∧
    ∀ path, ¬ d.IsAnchorTarget path → d.assignAnchors.labelAt? path = d.labelAt? path := by
  constructor
  · intro path target
    rcases target.exists_element with ⟨e, atPath⟩
    rcases exists_given_of_target target atPath with ⟨id, member, labelled⟩
    have nonempty := (assignments_fresh _ _ _ member).1
    have own : d.assignAnchors.idAttrAt? path = some id := by
      rw [idAttrAt?_of_labelAt?_eq labelled, Table.get?_insert_self]
    exact ⟨e, id, atPath, nonempty, labelled, own,
      fun other different => idAttrAt?_assignAnchors_ne member different⟩
  · intro path other
    exact labelAt?_assignAnchors_of_not_target other

end Document

end Folio
