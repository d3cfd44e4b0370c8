import Folio.Proofs.Page.GrowingPage

namespace Folio

open Markup

/-!
# The run over a page that grows

The runs over a page and over the page with one more element at its end are compared turn by turn.
Up to the turn of the new element they give out the same.  What the elements ask for that have their
turns later is settled by then: they stand around none of each other, and so none of them is the
scope of another.  Their identifiers are allotted along one list of candidates, without and with the
identifier of the new element in use.
-/

namespace Document

/-- The identifier that the element at a path asks for. -/
def candidateAt? (d : Document) (path : TreePath) : Option String :=
  (d.at? path).map fun e => anchorCandidate e (d.scopeAt path)

/-- What an element asks for is read off its identifier, its text and its scope. -/
theorem candidateAt?_eq {d d' : Document} {path : TreePath}
    (ids : (d'.at? path).map Element.id? = (d.at? path).map Element.id?)
    (texts : (d'.at? path).map Element.shownText = (d.at? path).map Element.shownText)
    (scopes : d'.scopeAt path = d.scopeAt path) : d'.candidateAt? path = d.candidateAt? path := by
  rw [candidateAt?, candidateAt?, scopes]
  cases atPath : d.at? path with
  | none =>
      rw [atPath] at ids
      rw [Option.map_eq_none_iff.mp ids]
  | some e =>
      rw [atPath] at ids texts
      rcases Option.map_eq_some_iff.mp ids with ⟨e', atPath', sameId⟩
      rw [atPath'] at texts ⊢
      rw [Option.map_some, Option.map_some, anchorCandidate, anchorCandidate, sameId,
        Element.normalText, Element.normalText, Option.some.inj texts]

theorem isSome_at?_take {d : Document} {path : TreePath} (found : (d.at? path).isSome) (n : Nat) :
    (d.at? (path.take n)).isSome := by
  rw [← List.take_append_drop n path, at?, Element.at?_append] at found
  cases atFront : d.root.at? (path.take n) with
  | none => rw [atFront] at found; cases found
  | some e => rw [at?, atFront]; rfl

/-- Writing an identifier changes what is asked for at most below the path where it is written. -/
theorem candidateAt?_setId_of_not_prefix (d : Document) {path other : TreePath} (below : path ≠ [])
    (apart : ¬ path <+: other) (id : String) :
    (d.modifyAt path (·.setAttr "id" id)).candidateAt? other = d.candidateAt? other := by
  apply candidateAt?_eq
  · apply map_id?_setId_of_ne d below
    rintro rfl
    exact apart (List.prefix_refl other)
  · exact map_shownText_setId d below id other
  · rw [scopeAt_eq, scopeAt_eq]
    congr 2
    apply List.filterMap_congr
    intro n _
    apply map_id?_setId_of_ne d below
    rintro rfl
    exact apart (List.take_prefix n other)

theorem isSome_at?_setId (d : Document) {path : TreePath} (below : path ≠ []) (id : String)
    (other : TreePath) :
    ((d.modifyAt path (·.setAttr "id" id)).at? other).isSome = (d.at? other).isSome := by
  have texts := congrArg Option.isSome (d.map_shownText_setId below id other)
  rwa [Option.isSome_map, Option.isSome_map] at texts

/-! ## Runs that give out the same -/

/-- Whether one page shows what another shows, wherever that one has an element below its root. -/
structure Covers (d d' : Document) : Prop where
  ids : ∀ path, (d.at? path).isSome → (d'.at? path).map Element.id? = (d.at? path).map Element.id?
  texts : ∀ path, path ≠ [] → (d.at? path).isSome →
    (d'.at? path).map Element.shownText = (d.at? path).map Element.shownText

namespace Covers

variable {d d' : Document} (covers : Covers d d')

include covers

theorem isSome_at? {path : TreePath} (found : (d.at? path).isSome) : (d'.at? path).isSome := by
  have same := congrArg Option.isSome (covers.ids path found)
  rw [Option.isSome_map, Option.isSome_map] at same
  rw [same]
  exact found

theorem candidateAt? {path : TreePath} (below : path ≠ []) (found : (d.at? path).isSome) :
    d'.candidateAt? path = d.candidateAt? path := by
  apply candidateAt?_eq (covers.ids path found) (covers.texts path below found)
  rw [scopeAt_eq, scopeAt_eq]
  congr 2
  apply List.filterMap_congr
  intro n _
  exact covers.ids _ (isSome_at?_take found n)

/-- Writing an identifier at a path of both pages. -/
theorem setId {path : TreePath} (below : path ≠ []) (found : (d.at? path).isSome) (id : String) :
    Covers (d.modifyAt path (·.setAttr "id" id)) (d'.modifyAt path (·.setAttr "id" id)) := by
  constructor
  · intro other foundOther
    rw [isSome_at?_setId d below] at foundOther
    by_cases same : other = path
    · subst same
      rcases Option.isSome_iff_exists.mp found with ⟨e, atPath⟩
      rcases Option.isSome_iff_exists.mp (covers.isSome_at? found) with ⟨e', atPath'⟩
      rw [map_id?_setId_self d' below, map_id?_setId_self d below, atPath, atPath']
      rfl
    · rw [map_id?_setId_of_ne d' below same, map_id?_setId_of_ne d below same,
        covers.ids other foundOther]
  · intro other belowOther foundOther
    rw [isSome_at?_setId d below] at foundOther
    rw [map_shownText_setId d' below, map_shownText_setId d below,
      covers.texts other belowOther foundOther]

/-- Writing an identifier where the first page has no element. -/
theorem setId_right {path : TreePath} (below : path ≠ []) (absent : d.at? path = none)
    (id : String) : Covers d (d'.modifyAt path (·.setAttr "id" id)) := by
  constructor
  · intro other found
    have different : other ≠ path := by
      rintro rfl
      rw [absent] at found
      cases found
    rw [map_id?_setId_of_ne d' below different, covers.ids other found]
  · intro other belowOther found
    rw [map_shownText_setId d' below, covers.texts other belowOther found]

end Covers

/-- The state that a run along some paths leaves. -/
def assignAlong (paths : List TreePath) (s : Document × IdRegistry) : Document × IdRegistry :=
  paths.foldl (fun s path => s.1.assignAt s.2 path) s

theorem assignments_append (first second : List TreePath) (s : Document × IdRegistry) :
    assignments (first ++ second) s =
      assignments first s ++ assignments second (assignAlong first s) := by
  induction first generalizing s with
  | nil => rfl
  | cons path first inductionHypothesis =>
      rw [List.cons_append, assignments, assignments, assignAlong, List.foldl_cons, ← assignAlong]
      cases atPath : s.1.at? path with
      | none =>
          have same : s.1.assignAt s.2 path = s := by rw [assignAt, atPath]
          rw [same]
          exact inductionHypothesis s
      | some e => exact congrArg _ (inductionHypothesis _)

theorem exists_assignAt {d : Document} {path : TreePath} (found : (d.at? path).isSome)
    (r : IdRegistry) :
    ∃ candidate, d.candidateAt? path = some candidate ∧
      d.assignAt r path =
        (d.modifyAt path (·.setAttr "id" (r.unique candidate)), r.register (r.unique candidate)) ∧
      ∀ paths, assignments (path :: paths) (d, r) =
        (path, r.unique candidate) :: assignments paths (d.assignAt r path) := by
  rcases Option.isSome_iff_exists.mp found with ⟨e, atPath⟩
  refine ⟨anchorCandidate e (d.scopeAt path), by rw [candidateAt?, atPath]; rfl,
    assignAt_of_at?_eq_some d r atPath, ?_⟩
  intro paths
  rw [assignments, atPath]

/-- Along paths of both pages the runs give out the same, and one page still covers the other. -/
theorem Covers.assignAlong {d d' : Document} (covers : Covers d d') (r : IdRegistry)
    {paths : List TreePath} (places : ∀ path ∈ paths, path ≠ [] ∧ (d.at? path).isSome) :
    assignments paths (d', r) = assignments paths (d, r) ∧
      Covers (Document.assignAlong paths (d, r)).1 (Document.assignAlong paths (d', r)).1 ∧
      (Document.assignAlong paths (d', r)).2 = (Document.assignAlong paths (d, r)).2 := by
  induction paths generalizing d d' r with
  | nil => exact ⟨rfl, covers, rfl⟩
  | cons path paths inductionHypothesis =>
      rcases places path List.mem_cons_self with ⟨below, found⟩
      rcases exists_assignAt found r with ⟨candidate, asked, step, gives⟩
      rcases exists_assignAt (covers.isSome_at? found) r with ⟨candidate', asked', step', gives'⟩
      have same : candidate' = candidate := Option.some.inj
        (asked'.symm.trans ((covers.candidateAt? below found).trans asked))
      subst same
      have placesNow : ∀ other ∈ paths, other ≠ [] ∧
          ((d.modifyAt path (·.setAttr "id" (r.unique candidate'))).at? other).isSome := by
        intro other member
        rcases places other (List.mem_cons_of_mem path member) with ⟨belowOther, foundOther⟩
        exact ⟨belowOther, by rw [isSome_at?_setId d below]; exact foundOther⟩
      rcases inductionHypothesis (covers.setId below found _) (r.register (r.unique candidate'))
        placesNow with ⟨sameLater, coversLater, sameRegistry⟩
      rw [gives, gives', Document.assignAlong, Document.assignAlong, List.foldl_cons,
        List.foldl_cons, ← Document.assignAlong, ← Document.assignAlong]
      simp only [step, step']
      exact ⟨congrArg _ sameLater, coversLater, sameRegistry⟩

/-- Along paths that do not lead through one another, identifiers are allotted to what the elements
ask for before the run. -/
theorem map_snd_assignments_of_apart (d : Document) (r : IdRegistry) {paths : List TreePath}
    (places : ∀ path ∈ paths, path ≠ [] ∧ (d.at? path).isSome)
    (apart : paths.Pairwise fun first second => ¬ first <+: second) :
    (assignments paths (d, r)).map Prod.snd = r.allot (paths.filterMap d.candidateAt?) := by
  induction paths generalizing d r with
  | nil => rfl
  | cons path paths inductionHypothesis =>
      rcases places path List.mem_cons_self with ⟨below, found⟩
      rcases exists_assignAt found r with ⟨candidate, asked, step, gives⟩
      rw [List.pairwise_cons] at apart
      have sameAsked : paths.filterMap
          (d.modifyAt path (·.setAttr "id" (r.unique candidate))).candidateAt? =
          paths.filterMap d.candidateAt? := by
        apply List.filterMap_congr
        intro other member
        exact d.candidateAt?_setId_of_not_prefix below (apart.1 other member) _
      rw [gives, List.map_cons, List.filterMap_cons_some asked, IdRegistry.allot, step,
        inductionHypothesis _ _ _ apart.2, sameAsked]
      intro other member
      rcases places other (List.mem_cons_of_mem path member) with ⟨belowOther, foundOther⟩
      exact ⟨belowOther, by rw [isSome_at?_setId d below]; exact foundOther⟩

theorem isSome_at?_assignAlong {paths : List TreePath} (below : ∀ path ∈ paths, path ≠ [])
    (s : Document × IdRegistry) (other : TreePath) :
    ((assignAlong paths s).1.at? other).isSome = (s.1.at? other).isSome := by
  induction paths generalizing s with
  | nil => rfl
  | cons path paths inductionHypothesis =>
      rw [assignAlong, List.foldl_cons, ← assignAlong,
        inductionHypothesis fun q member => below q (List.mem_cons_of_mem path member)]
      cases atPath : s.1.at? path with
      | none => rw [assignAt, atPath]
      | some e =>
          rw [assignAt_of_at?_eq_some s.1 s.2 atPath,
            isSome_at?_setId s.1 (below path List.mem_cons_self)]

/-- Runs along paths that do not lead through one another, before which one of them alone has given
out an identifier.  It makes no difference if the other run does not give it out, and takes no
other identifier away. -/
theorem Covers.exists_assignments_cons {d d' : Document} (covers : Covers d d') (r : IdRegistry)
    {path : TreePath} (below : path ≠ []) (absent : d.at? path = none)
    (present : (d'.at? path).isSome) {paths : List TreePath}
    (places : ∀ path ∈ paths, path ≠ [] ∧ (d.at? path).isSome)
    (apart : paths.Pairwise fun first second => ¬ first <+: second) :
    ∃ id later', assignments (path :: paths) (d', r) = (path, id) :: later' ∧
      (id ∉ (assignments paths (d, r)).map Prod.snd → later' = assignments paths (d, r)) ∧
      ∀ given ∈ (assignments paths (d, r)).map Prod.snd,
        given = id ∨ given ∈ later'.map Prod.snd := by
  rcases exists_assignAt present r with ⟨candidate, -, step, gives⟩
  have coversNow := covers.setId_right below absent (r.unique candidate)
  have placesNow := fun other member => And.intro (places other member).1
    (coversNow.isSome_at? (places other member).2)
  have sameAsked : paths.filterMap
      (d'.modifyAt path (·.setAttr "id" (r.unique candidate))).candidateAt? =
      paths.filterMap d.candidateAt? := by
    apply List.filterMap_congr
    intro other member
    exact coversNow.candidateAt? (places other member).1 (places other member).2
  have samePaths : (assignments paths (d'.assignAt r path)).map Prod.fst =
      (assignments paths (d, r)).map Prod.fst := by
    rw [step, map_fst_assignments _ _ (fun other member => (places other member).1)
      fun other member => (placesNow other member).2, map_fst_assignments _ _
      (fun other member => (places other member).1) fun other member => (places other member).2]
  have hasExtra := r.hasExtra_register (r.unique_not_mem candidate)
  have allotted := map_snd_assignments_of_apart d r places apart
  have allottedNow : (assignments paths (d'.assignAt r path)).map Prod.snd =
      (r.register (r.unique candidate)).allot (paths.filterMap d.candidateAt?) := by
    rw [step, map_snd_assignments_of_apart _ _ placesNow apart, sameAsked]
  refine ⟨r.unique candidate, _, gives paths, ?_, ?_⟩
  · intro unused
    rw [allotted] at unused
    have sameIds := allottedNow.trans ((hasExtra.allot_eq unused).trans allotted.symm)
    exact (List.zip_of_prod samePaths sameIds).trans (List.zip_of_prod rfl rfl).symm
  · rw [allotted, allottedNow]
    exact fun given => hasExtra.mem_allot

/-! ## The identifiers of the grown page -/

variable {d : Document} {e : Element}

theorem covers_withLast (d : Document) (e : Element) : Covers d (d.withLast e) := by
  constructor
  · intro path found
    by_cases atRoot : path = []
    · subst atRoot
      rfl
    · rw [at?_withLast atRoot found]
  · intro path below found
    rw [at?_withLast below found]

/-- What the targets of the grown page are given: those assigned before the new element what they
were given without it, and those assigned after it what was given without it too, but for the
identifier of the new element, where one of them had that. -/
theorem exists_givenIds_withLast (d : Document) (plain : e.IsPlainBlock) :
    ∃ earlier later later' id, d.givenIds = earlier ++ later ∧
      (d.withLast e).givenIds = earlier ++ (d.lastPath, id) :: later' ∧
      (∀ g ∈ later, d.IsAssignedAfter e g.1) ∧
      (id ∉ later.map Prod.snd → later' = later) ∧
      ∀ given ∈ later.map Prod.snd, given = id ∨ given ∈ later'.map Prod.snd := by
  rcases d.exists_anchorOrder_withLast plain with
    ⟨earlier, later, order, orderWithLast, assignedAfter⟩
  have places : ∀ path ∈ earlier ++ later, path ≠ [] ∧ (d.at? path).isSome := by
    intro path member
    rw [← order, mem_anchorOrder_iff] at member
    rcases member.exists_element with ⟨c, atPath⟩
    exact ⟨member.ne_nil, by rw [atPath]; rfl⟩
  have belowEarlier : ∀ path ∈ earlier, path ≠ [] :=
    fun path member => (places path (List.mem_append_left later member)).1
  have lastBelow : d.lastPath ≠ [] := List.cons_ne_nil _ _
  -- Up to the turn of the new element the runs agree.
  rcases (covers_withLast d e).assignAlong d.reservedIds
    (fun path member => places path (List.mem_append_left later member)) with
    ⟨sameEarlier, covers, sameRegistry⟩
  have apartLater : later.Pairwise fun first second => ¬ first <+: second := by
    have once := d.nodup_anchorOrder
    rw [order] at once
    apply once.of_append_right.imp_of_mem
    intro first second isFirst isSecond different
    exact not_prefix_of_mem_fullTextPaths (assignedAfter first isFirst).1
      (assignedAfter second isSecond).1 different
  have absent : (assignAlong earlier (d, d.reservedIds)).1.at? d.lastPath = none := by
    rw [← Option.not_isSome_iff_eq_none, isSome_at?_assignAlong belowEarlier, at?_lastPath]
    exact Bool.false_ne_true
  have present : ((assignAlong earlier (d.withLast e, d.reservedIds)).1.at? d.lastPath).isSome := by
    rw [isSome_at?_assignAlong belowEarlier, at?_withLast_lastPath]
    rfl
  have placesLater : ∀ path ∈ later,
      path ≠ [] ∧ ((assignAlong earlier (d, d.reservedIds)).1.at? path).isSome := by
    intro path member
    rcases places path (List.mem_append_right earlier member) with ⟨below, found⟩
    exact ⟨below, by rw [isSome_at?_assignAlong belowEarlier]; exact found⟩
  rcases covers.exists_assignments_cons (assignAlong earlier (d, d.reservedIds)).2
    lastBelow absent present placesLater apartLater with
    ⟨id, later', gives, unused, kept⟩
  refine ⟨assignments earlier (d, d.reservedIds), _, later', id, ?_, ?_, ?_, unused, kept⟩
  · rw [givenIds, order, assignments_append]
  · rw [givenIds, orderWithLast, reservedIds_withLast d plain, assignments_append, sameEarlier,
      ← gives, ← sameRegistry]
  · intro g member
    have listed := List.mem_map_of_mem (f := Prod.fst) member
    rw [map_fst_assignments _ _ (fun path member => (placesLater path member).1)
      fun path member => (placesLater path member).2] at listed
    exact assignedAfter g.1 listed

/-- An element keeps its identifier if the run still gives it the one that it gave it before. -/
theorem idAttrAt?_withLast_eq (plain : e.IsPlainBlock) {path : TreePath}
    (found : (d.at? path).isSome)
    (kept : ∀ id, (path, id) ∈ d.givenIds → (path, id) ∈ (d.withLast e).givenIds) :
    (d.withLast e).assignAnchors.idAttrAt? path = d.assignAnchors.idAttrAt? path := by
  by_cases target : path ∈ d.givenIds.map Prod.fst
  · rcases List.mem_map.mp target with ⟨⟨_, id⟩, member, rfl⟩
    rw [idAttrAt?_assignAnchors_of_mem member, idAttrAt?_assignAnchors_of_mem (kept id member)]
  · have targetNow : path ∉ (d.withLast e).givenIds.map Prod.fst := by
      rcases d.exists_anchorOrder_withLast plain with ⟨earlier, later, order, orderWithLast, -⟩
      rw [map_fst_givenIds, order] at target
      rw [map_fst_givenIds, orderWithLast]
      simpa [ne_lastPath_of_isSome found] using target
    rw [idAttrAt?_assignAnchors_of_not_mem target, idAttrAt?_assignAnchors_of_not_mem targetNow]
    by_cases atRoot : path = []
    · subst atRoot
      rfl
    · rw [idAttrAt?, at?_withLast atRoot found, idAttrAt?]

theorem isSome_at?_of_idAttrAt?_assignAnchors {path : TreePath} {id : String}
    (own : d.assignAnchors.idAttrAt? path = some id) : (d.at? path).isSome := by
  rcases Option.bind_eq_some_iff.mp own with ⟨c', atPath', -⟩
  rcases exists_at?_of_assignAnchors atPath' with ⟨c, atPath, -⟩
  rw [atPath]
  rfl

theorem idAttrAt?_withLast_of_not_assignedAfter (plain : e.IsPlainBlock) {path : TreePath}
    (found : (d.at? path).isSome) (before : ¬ d.IsAssignedAfter e path) :
    (d.withLast e).assignAnchors.idAttrAt? path = d.assignAnchors.idAttrAt? path := by
  rcases d.exists_givenIds_withLast plain with
    ⟨earlier, later, later', newId, given, givenNow, isLater, -, -⟩
  apply idAttrAt?_withLast_eq plain found
  intro id member
  rw [given] at member
  rw [givenNow]
  rcases List.mem_append.mp member with isEarlier | member
  · exact List.mem_append_left _ isEarlier
  · exact absurd (isLater _ member) before

theorem forall_idAttrAt?_withLast_eq_iff (d : Document) (plain : e.IsPlainBlock) :
    (∀ path, (d.at? path).isSome →
        (d.withLast e).assignAnchors.idAttrAt? path = d.assignAnchors.idAttrAt? path) ↔
      ∀ path, d.assignAnchors.idAttrAt? path ≠
        (d.withLast e).assignAnchors.idAttrAt? d.lastPath := by
  rcases d.exists_givenIds_withLast plain with
    ⟨earlier, later, later', newId, given, givenNow, -, unused, -⟩
  have newMember : (d.lastPath, newId) ∈ (d.withLast e).givenIds := by
    rw [givenNow]
    exact List.mem_append_right _ List.mem_cons_self
  rw [idAttrAt?_assignAnchors_of_mem newMember]
  constructor
  · -- What the new element is given no other element of the grown page has.
    intro stable path taken
    have found := isSome_at?_of_idAttrAt?_assignAnchors taken
    exact idAttrAt?_assignAnchors_ne newMember (ne_lastPath_of_isSome found)
      ((stable path found).trans taken)
  · intro free path found
    have notNew : newId ∉ later.map Prod.snd := by
      intro listed
      rcases List.mem_map.mp listed with ⟨⟨other, _⟩, isLater, rfl⟩
      exact free other (idAttrAt?_assignAnchors_of_mem
        (by rw [given]; exact List.mem_append_right _ isLater))
    apply idAttrAt?_withLast_eq plain found
    intro id member
    rw [given] at member
    rw [givenNow, unused notNew]
    exact ((List.sublist_cons_self _ _).append_left earlier).subset member

theorem exists_idAttrAt?_withLast_eq (plain : e.IsPlainBlock) {path : TreePath} {id : String}
    (own : d.assignAnchors.idAttrAt? path = some id) :
    ∃ path', (d.withLast e).assignAnchors.idAttrAt? path' = some id := by
  rcases d.exists_givenIds_withLast plain with
    ⟨earlier, later, later', newId, given, givenNow, -, -, others⟩
  have kept : ∀ g ∈ earlier ++ (d.lastPath, newId) :: later',
      (d.withLast e).assignAnchors.idAttrAt? g.1 = some g.2 := by
    intro g member
    rw [← givenNow] at member
    exact idAttrAt?_assignAnchors_of_mem member
  by_cases target : path ∈ d.givenIds.map Prod.fst
  · rcases List.mem_map.mp target with ⟨⟨_, id'⟩, member, rfl⟩
    have same : id' = id := Option.some.inj ((idAttrAt?_assignAnchors_of_mem member).symm.trans own)
    subst same
    rw [given] at member
    rcases List.mem_append.mp member with isEarlier | isLater
    · exact ⟨_, kept _ (List.mem_append_left _ isEarlier)⟩
    · -- Another element may have it now: the new one, or one that is assigned after it.
      rcases others id' (List.mem_map_of_mem isLater) with same | listed
      · exact ⟨d.lastPath, same ▸ kept (d.lastPath, newId)
          (List.mem_append_right _ List.mem_cons_self)⟩
      · rcases List.mem_map.mp listed with ⟨⟨other, _⟩, isLaterNow, rfl⟩
        exact ⟨other, kept (other, _)
          (List.mem_append_right _ (List.mem_cons_of_mem _ isLaterNow))⟩
  · have found := isSome_at?_of_idAttrAt?_assignAnchors own
    refine ⟨path, (idAttrAt?_withLast_eq plain found ?_).trans own⟩
    exact fun id' member => absurd (List.mem_map_of_mem (f := Prod.fst) member) target

/-- A heading or a paragraph without an identifier, put at the end of the article, leaves every
element its identifier but those full-text fragments that are assigned after it.  These keep theirs
too, all of them, exactly if the new element is given none of the identifiers that the page had.
No identifier is lost: each is in use in the grown page, if not by the same element. -/
theorem idAttrAt?_assignAnchors_withLast (d : Document) {e : Element} (plain : e.IsPlainBlock) :
    (∀ path, (d.at? path).isSome → ¬ d.IsAssignedAfter e path →
      (d.withLast e).assignAnchors.idAttrAt? path = d.assignAnchors.idAttrAt? path) ∧
    ((∀ path, (d.at? path).isSome →
        (d.withLast e).assignAnchors.idAttrAt? path = d.assignAnchors.idAttrAt? path) ↔
      ∀ path, d.assignAnchors.idAttrAt? path ≠
        (d.withLast e).assignAnchors.idAttrAt? d.lastPath) ∧
    ∀ path id, d.assignAnchors.idAttrAt? path = some id →
      ∃ path', (d.withLast e).assignAnchors.idAttrAt? path' = some id :=
  ⟨fun _ => idAttrAt?_withLast_of_not_assignedAfter plain, d.forall_idAttrAt?_withLast_eq_iff plain,
    fun _ _ => exists_idAttrAt?_withLast_eq plain⟩

/-- A page with one paragraph, and a heading that says the same. -/
def oneParagraph : Document where
  children := [.element "p" Dict.empty [.text "Same text"]]

def sameHeading : Element := ⟨"h2", Dict.empty, [.text "Same text"]⟩

/-- The heading takes over the identifier of the paragraph, which the grown page still has. -/
theorem idAttrAt?_assignAnchors_withLast_sameHeading :
    sameHeading.IsPlainBlock ∧ oneParagraph.assignAnchors.idAttrAt? [0] = some "d963de6e" ∧
      ∃ path', (oneParagraph.withLast sameHeading).assignAnchors.idAttrAt? path' =
        some "d963de6e" := by
  have plain : sameHeading.IsPlainBlock := ⟨Or.inl (by decide), rfl, rfl, rfl⟩
  have own : oneParagraph.assignAnchors.idAttrAt? [0] = some "d963de6e" := by decide +kernel
  exact ⟨plain, own, (idAttrAt?_assignAnchors_withLast oneParagraph plain).2.2 [0] _ own⟩

/-- A heading at the end of a page can change the identifier of a paragraph before it. -/
theorem not_forall_idAttrAt?_withLast_eq :
    ¬ ∀ (d : Document) (e : Element), e.IsPlainBlock → ∀ path, (d.at? path).isSome →
      (d.withLast e).assignAnchors.idAttrAt? path = d.assignAnchors.idAttrAt? path := by
  intro stable
  have same := stable oneParagraph sameHeading ⟨Or.inl (by decide), rfl, rfl, rfl⟩ [0] rfl
  revert same
  decide +kernel

end Document

end Folio
