import Folio.Proofs.Page.AnchorGrowth

namespace Folio

open Markup

/-!
# The scopes of anchors

An identifier made from a text stands behind the identifier of a scope: of the nearest element
around that has one when its turn comes.  The finished page tells which one that was.  By the order
of turns, what stands around an element has its identifier already, be it the author's or one given
out at an earlier turn, with one exception: running text that has neither structure nor an
identifier of its own waits for all structure, also for the structure inside it.  So the scope is
the nearest element that has an identifier on the finished page, where running text that waits does
not count.  Fragments stand in no fragments, so for them every element counts.
-/

namespace Document

/-- Whether a place is running text that waits for its identifier until all structure has one. -/
def waits (d : Document) (path : TreePath) : Bool :=
  d.fullTextPaths.contains path && !(d.pathsOutsideCode isStructural).contains path &&
    !d.hasIdAt path

/-- The identifier of the nearest place around a path, of those that count, which has one. -/
def nearestId? (d : Document) (counts : TreePath → Bool) (path : TreePath) : Option String :=
  ((List.range path.length).filterMap fun n =>
    if counts (path.take n) then d.idAt? (path.take n) else none).getLast?

theorem scopeAt_eq_nearestId? (d : Document) (path : TreePath) :
    d.scopeAt path = d.nearestId? (fun _ => true) path := by
  rw [scopeAt, ancestors, Element.ancestors_eq_filterMap, ← List.head?_filterMap,
    List.filterMap_reverse, List.head?_reverse, List.filterMap_filterMap]
  rfl

/-- What is nearest depends on the places around a path only. -/
theorem nearestId?_congr {d d' : Document} {counts counts' : TreePath → Bool} {path : TreePath}
    (same : ∀ front, front <+: path → front ≠ path →
      (if counts front then d.idAt? front else none) =
        if counts' front then d'.idAt? front else none) :
    d.nearestId? counts path = d'.nearestId? counts' path := by
  rw [nearestId?, nearestId?]
  congr 1
  apply List.filterMap_congr
  intro n inRange
  apply same _ (List.take_prefix n path)
  intro whole
  have short := congrArg List.length whole
  rw [List.length_take] at short
  have bound := List.mem_range.mp inRange
  omega

theorem waits_eq_true_iff {d : Document} {path : TreePath} :
    d.waits path = true ↔
      path ∈ d.fullTextPaths ∧ path ∉ d.pathsOutsideCode isStructural ∧ d.idAt? path = none := by
  rw [waits, hasIdAt, idAt?]
  simp [and_assoc]

/-- Behind an element without an identifier comes no element that stands around it, except one that
waits; and one that waits stands around nothing that comes behind it. -/
theorem pairwise_anchorOrder_around (d : Document) :
    d.anchorOrder.Pairwise fun first second =>
      (d.idAt? first = none → second <+: first → d.waits second = true) ∧
        (d.waits first = true → ¬ first <+: second) := by
  have named : ∀ first, d.hasIdAt first = true → ∀ second : TreePath,
      (d.idAt? first = none → second <+: first → d.waits second = true) ∧
        (d.waits first = true → ¬ first <+: second) := by
    intro first has second
    rw [hasIdAt, ← idAt?, Option.isSome_iff_ne_none] at has
    exact ⟨fun lacks => absurd lacks has,
      fun waiting => absurd (waits_eq_true_iff.mp waiting).2.2 has⟩
  rw [anchorOrder, List.pairwise_append]
  refine ⟨?_, ?_, ?_⟩
  · exact List.pairwise_of_forall_mem_list fun first isFirst second _ =>
      named first (List.mem_filter.mp isFirst).2 second
  · rw [anchorTargets, List.filter_append, List.pairwise_append]
    refine ⟨?_, ?_, ?_⟩
    · -- Structure comes in document order, what stands around an element before the element.
      apply ((d.pairwise_pathsOutsideCode _).filter _).imp_of_mem
      intro first second isFirst _ before
      exact ⟨fun _ around => absurd before around.le,
        fun waiting => absurd (List.mem_filter.mp isFirst).1 (waits_eq_true_iff.mp waiting).2.1⟩
    · -- Fragments stand in no fragments.
      apply ((d.pairwise_fullTextPaths.filter _).filter _).imp
      intro first second apart
      rw [pathsOverlap_iff, not_or] at apart
      exact ⟨fun _ around => absurd around apart.1, fun _ => apart.2⟩
    · -- A fragment that comes behind structure without an identifier waits.
      intro first isFirst second isSecond
      rcases List.mem_filter.mp isSecond with ⟨listed, lacks⟩
      rcases List.mem_filter.mp listed with ⟨fragment, noStructure⟩
      rw [hasIdAt, ← idAt?, Option.not_isSome, Option.isNone_iff_eq_none] at lacks
      refine ⟨fun _ _ => waits_eq_true_iff.mpr ⟨fragment, by simpa using noStructure, lacks⟩, ?_⟩
      exact fun waiting =>
        absurd (List.mem_filter.mp isFirst).1 (waits_eq_true_iff.mp waiting).2.1
  · exact fun first isFirst second _ => named first (List.mem_filter.mp isFirst).2 second

theorem map_shownText_withIds (d : Document) {given : List (TreePath × String)}
    (below : ∀ g ∈ given, g.1 ≠ []) (path : TreePath) :
    ((d.withIds given).at? path).map Element.shownText = (d.at? path).map Element.shownText := by
  induction given generalizing d with
  | nil => rfl
  | cons g given inductionHypothesis =>
      rw [List.forall_mem_cons] at below
      exact (inductionHypothesis (d.modifyAt g.1 (·.setAttr "id" g.2)) below.2).trans
        (d.map_shownText_setId below.1 g.2 path)

/-- What has had its turn has the identifier that it has on the finished page. -/
theorem idAt?_withIds_of_mem_earlier {d : Document} {earlier later : List (TreePath × String)}
    (divided : d.givenIds = earlier ++ later) {path : TreePath}
    (isEarlier : path ∈ earlier.map Prod.fst) :
    (d.withIds earlier).idAt? path = d.assignAnchors.idAt? path := by
  have once := d.nodup_anchorOrder
  rw [← map_fst_givenIds] at once
  rcases List.mem_map.mp isEarlier with ⟨⟨_, given⟩, member, rfl⟩
  have listed : (_, given) ∈ d.givenIds := divided ▸ List.mem_append_left later member
  have target := mem_anchorOrder_iff.mp (map_fst_givenIds d ▸ List.mem_map_of_mem listed)
  rcases target.exists_element with ⟨e, atPath⟩
  rw [assignAnchors_eq_withIds]
  apply idAt?_of_labelAt?_eq
  rw [labelAt?_withIds_of_mem d d.ne_nil_of_mem_givenIds once listed atPath]
  apply labelAt?_withIds_of_mem d _ _ member atPath
  · exact fun g isGiven => d.ne_nil_of_mem_givenIds g (divided ▸ List.mem_append_left later isGiven)
  · rw [divided, List.map_append] at once
    exact once.of_append_left

/-- At the turn of an element without an identifier, what stands around it has the identifier that it
has on the finished page, except for running text that waits, which has none. -/
theorem idAt?_withIds_around {d : Document} {earlier later : List (TreePath × String)}
    {path : TreePath} {id : String} (divided : d.givenIds = earlier ++ (path, id) :: later)
    (nameless : d.idAt? path = none) {front : TreePath} (around : front <+: path)
    (proper : front ≠ path) :
    (d.withIds earlier).idAt? front =
      if d.waits front then none else d.assignAnchors.idAt? front := by
  have order := map_fst_givenIds d
  have sorted := d.pairwise_anchorOrder_around
  rw [← order, divided, List.map_append, List.map_cons, List.pairwise_append,
    List.pairwise_cons] at sorted
  by_cases isEarlier : front ∈ earlier.map Prod.fst
  · have settled : ¬ d.waits front = true :=
      fun waiting => (sorted.2.2 front isEarlier path List.mem_cons_self).2 waiting around
    rw [if_neg settled, idAt?_withIds_of_mem_earlier divided isEarlier]
  · rw [idAt?_withIds_earlier divided isEarlier]
    by_cases target : d.IsAnchorTarget front
    · -- Its turn comes later, though it stands around the element: it waits.
      have isLater : front ∈ later.map Prod.fst := by
        have listed := mem_anchorOrder_iff.mpr target
        rw [← order, divided, List.map_append, List.map_cons] at listed
        simpa [isEarlier, proper] using listed
      have waiting := (sorted.2.1.1 front isLater).1 nameless around
      rw [if_pos waiting, (waits_eq_true_iff.mp waiting).2.2]
    · have settled : ¬ d.waits front = true :=
        fun waiting => target (Or.inr (waits_eq_true_iff.mp waiting).1)
      rw [if_neg settled]
      exact (idAt?_of_labelAt?_eq (labelAt?_assignAnchors_of_not_target target)).symm

/-! ## Identifiers made from texts -/

/-- The identifier that is made from a text in a scope. -/
def madeId (scope : Option String) (text : String) : String :=
  (scope.map (· ++ ":")).getD "" ++ shortDigest text

theorem exists_candidate_of_target {d : Document} {path : TreePath} (target : d.IsAnchorTarget path)
    {e : Element} (atPath : d.at? path = some e) (nameless : e.id? = none) :
    ∃ r : IdRegistry, d.assignAnchors.idAt? path =
      some (r.unique (madeId (d.assignAnchors.nearestId? (!d.waits ·) path) e.normalText)) := by
  rcases exists_given_of_target target atPath with ⟨id, member, -⟩
  have given : d.assignAnchors.idAt? path = some id := by
    rcases Option.bind_eq_some_iff.mp (idAttrAt?_assignAnchors_of_mem member) with
      ⟨final, atFinal, own⟩
    rw [idAt?, atFinal]
    exact Element.id?_eq_some_iff.mpr ⟨own, (assignments_fresh _ _ _ member).1⟩
  have namelessHere : d.idAt? path = none := by rw [idAt?, atPath, Option.bind_some, nameless]
  rcases List.append_of_mem member with ⟨earlier, later, divided⟩
  rcases exists_turn_of_assignments divided with ⟨r, now, atNow, unique, -⟩
  refine ⟨r, given.trans ?_⟩
  have namelessNow := idAt?_withIds_earlier divided (not_mem_earlier divided)
  rw [namelessHere, idAt?, atNow, Option.bind_some] at namelessNow
  have sameText : now.normalText = e.normalText := by
    have below : ∀ g ∈ earlier, g.1 ≠ [] :=
      fun g isGiven => d.ne_nil_of_mem_givenIds g (divided ▸ List.mem_append_left _ isGiven)
    have texts := d.map_shownText_withIds below path
    rw [atNow, atPath] at texts
    rw [Element.normalText, Element.normalText, Option.some.inj texts]
  have scope : (d.withIds earlier).scopeAt path =
      d.assignAnchors.nearestId? (!d.waits ·) path := by
    rw [scopeAt_eq_nearestId?]
    apply nearestId?_congr
    intro front around proper
    rw [if_pos rfl, idAt?_withIds_around divided namelessHere around proper]
    cases d.waits front <;> rfl
  rw [unique, anchorCandidate, namelessNow, Option.getD_none, sameText, scope]
  rfl

/-- Where nothing around a place waits, the scope is that of the place on the finished page. -/
theorem nearestId?_of_not_waits {d : Document} {path : TreePath}
    (settled : ∀ front, front <+: path → front ≠ path → d.waits front = false) :
    d.assignAnchors.nearestId? (!d.waits ·) path = d.assignAnchors.scopeAt path := by
  rw [scopeAt_eq_nearestId?]
  apply nearestId?_congr
  intro front around proper
  rw [settled front around proper]
  rfl

/-- A heading, callout, figure or fragment without an identifier is given one that is made from its
text, or that one with a number behind it.  The scope is the nearest element around that has an
identifier on the finished page, where running text that waits for its identifier does not count.
It is the scope on the finished page if nothing around the place waits, and always that for
fragments. -/
theorem idAt?_assignAnchors_of_text {d : Document} {path : TreePath}
    (target : d.IsAnchorTarget path) {e : Element} (atPath : d.at? path = some e)
    (nameless : e.id? = none) :
    (∃ id, d.assignAnchors.idAt? path = some id ∧
      (id = madeId (d.assignAnchors.nearestId? (!d.waits ·) path) e.normalText ∨
        ∃ n, id = IdRegistry.numbered
          (madeId (d.assignAnchors.nearestId? (!d.waits ·) path) e.normalText) n)) ∧
      ((∀ front, front <+: path → front ≠ path → d.waits front = false) →
        d.assignAnchors.nearestId? (!d.waits ·) path = d.assignAnchors.scopeAt path) ∧
      (path ∈ d.fullTextPaths →
        d.assignAnchors.nearestId? (!d.waits ·) path = d.assignAnchors.scopeAt path) := by
  refine ⟨?_, nearestId?_of_not_waits, ?_⟩
  · rcases exists_candidate_of_target target atPath nameless with ⟨r, given⟩
    refine ⟨_, given, ?_⟩
    rcases r.unique_spec (madeId (d.assignAnchors.nearestId? (!d.waits ·) path) e.normalText) with
      ⟨-, same⟩ | ⟨-, n, -, numbered, -⟩
    · exact Or.inl same
    · exact Or.inr ⟨n, numbered⟩
  · intro fragment
    apply nearestId?_of_not_waits
    intro front around proper
    rw [Bool.eq_false_iff]
    intro waiting
    exact not_prefix_of_mem_fullTextPaths (waits_eq_true_iff.mp waiting).1 fragment proper around

/-- A page with a heading in a list item of a section. -/
def headingInItem : Document where
  children :=
    [.element "section" (Dict.ofList [("id", "s")])
      [.element "ul" Dict.empty
        [.element "li" Dict.empty [.element "h2" Dict.empty [.text "T"]]]]]

/-- The heading is in the scope of the section, since the list item around it waits. -/
theorem idAt?_assignAnchors_of_text_headingInItem :
    headingInItem.IsAnchorTarget [0, 0, 0, 0] ∧
      headingInItem.assignAnchors.nearestId? (!headingInItem.waits ·) [0, 0, 0, 0] = some "s" ∧
      ∃ id, headingInItem.assignAnchors.idAt? [0, 0, 0, 0] = some id ∧
        (id = madeId (some "s") "T" ∨ ∃ n, id = IdRegistry.numbered (madeId (some "s") "T") n) := by
  have target : headingInItem.IsAnchorTarget [0, 0, 0, 0] :=
    mem_anchorTargets_iff.mp (by decide +kernel)
  have scope : headingInItem.assignAnchors.nearestId? (!headingInItem.waits ·) [0, 0, 0, 0] =
      some "s" := by
    decide +kernel
  refine ⟨target, scope, ?_⟩
  rcases (idAt?_assignAnchors_of_text target rfl (by decide)).1 with ⟨id, given, made⟩
  rw [scope] at made
  exact ⟨id, given, made⟩

/-- The list item around the heading has an identifier in the end, but the heading has none made in
its scope. -/
theorem not_forall_idAt?_of_scopeAt :
    ¬ ∀ (d : Document) (path : TreePath) (e : Element), d.IsAnchorTarget path →
      d.at? path = some e → e.id? = none →
      ∃ id, d.assignAnchors.idAt? path = some id ∧
        (id = madeId (d.assignAnchors.scopeAt path) e.normalText ∨
          ∃ n, id = IdRegistry.numbered (madeId (d.assignAnchors.scopeAt path) e.normalText) n) := by
  intro claimed
  have target : headingInItem.IsAnchorTarget [0, 0, 0, 0] :=
    mem_anchorTargets_iff.mp (by decide +kernel)
  rcases claimed headingInItem [0, 0, 0, 0] _ target rfl (by decide) with ⟨id, given, made⟩
  have own : headingInItem.assignAnchors.idAt? [0, 0, 0, 0] = some "s:e632b709" := by
    decide +kernel
  have scope : headingInItem.assignAnchors.scopeAt [0, 0, 0, 0] = some "s:e632b709_0" := by
    decide +kernel
  rw [given, Option.some_inj] at own
  have text : Element.normalText ⟨"h2", Dict.empty, [.text "T"]⟩ = "T" := by decide +kernel
  rw [own, scope, text] at made
  -- What is made in the scope of the list item is longer, with and without a number.
  have longer : "s:e632b709".length < (madeId (some "s:e632b709_0") "T").length := by
    decide +kernel
  rcases made with same | ⟨n, numbered⟩
  · exact absurd (congrArg String.length same) longer.ne
  · have lengths := congrArg String.length numbered
    rw [IdRegistry.numbered, String.length_append, String.length_append] at lengths
    exact absurd lengths (by omega)

end Document

end Folio
