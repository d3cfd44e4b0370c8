import Folio.Proofs.Page.SearchHit

namespace Folio

open Markup

/-!
# Anchors that stay

A page whose anchors have been assigned is left alone when they are assigned again.  The targets
are the same as before, since writing identifiers selects no other elements.  Each of them asks for
the identifier that it has.  That one is reserved for no other element and has been given out to
none, so it is given out as it is, and writing it once more changes nothing.
-/

namespace Document

/-- Writing the identifier that an element has changes nothing. -/
theorem setId_of_attr?_eq_some (d : Document) {path : TreePath} (below : path ≠ []) {e : Element}
    (atPath : d.at? path = some e) {id : String} (own : e.attr? "id" = some id) :
    d.modifyAt path (·.setAttr "id" id) = d := by
  apply eq_of_labelAt?_eq
  intro other
  by_cases same : other = path
  · rw [same, labelAt?_setId_self d below atPath, Table.insert_of_get?_eq_some _ own]
    exact (labelAt?_eq_some_iff.mpr ⟨e, atPath, rfl, rfl, rfl⟩).symm
  · exact labelAt?_setId_of_ne d below same id

/-- An element whose identifier is free keeps it. -/
theorem assignAt_of_id?_free (d : Document) (r : IdRegistry) {path : TreePath} (below : path ≠ [])
    {id : String} (own : (d.at? path).bind Element.id? = some id) (free : id ∉ r.ids) :
    d.assignAt r path = (d, r.register id) := by
  rcases Option.bind_eq_some_iff.mp own with ⟨e, atPath, ownId⟩
  have candidate : anchorCandidate e (d.scopeAt path) = id := by
    rw [anchorCandidate, ownId, Option.getD_some]
  rw [assignAt_of_at?_eq_some d r atPath, candidate, r.unique_of_not_mem free,
    setId_of_attr?_eq_some d below atPath (Element.id?_eq_some_iff.mp ownId).1]

/-- A run over elements with different identifiers, none of which is in use, changes nothing. -/
theorem foldl_assignAt_of_ids_free (d : Document) (r : IdRegistry) {paths : List TreePath}
    (below : ∀ path ∈ paths, path ≠ [])
    (free : ∀ path ∈ paths, ∃ id, (d.at? path).bind Element.id? = some id ∧ id ∉ r.ids)
    (different : paths.Pairwise fun first second =>
      (d.at? first).bind Element.id? ≠ (d.at? second).bind Element.id?) :
    (paths.foldl (fun s path => s.1.assignAt s.2 path) (d, r)).1 = d := by
  induction paths generalizing r with
  | nil => rfl
  | cons path paths inductionHypothesis =>
      rcases free path List.mem_cons_self with ⟨id, own, isFree⟩
      rw [List.pairwise_cons] at different
      rw [List.foldl_cons, assignAt_of_id?_free d r (below path List.mem_cons_self) own isFree]
      apply inductionHypothesis
      · exact fun other member => below other (List.mem_cons_of_mem path member)
      · -- What the step has registered is the identifier of no later element.
        intro other member
        rcases free other (List.mem_cons_of_mem path member) with ⟨otherId, ownOther, freeOther⟩
        refine ⟨otherId, ownOther, ?_⟩
        rw [IdRegistry.mem_register_iff, not_or]
        refine ⟨?_, freeOther⟩
        rintro rfl
        exact different.1 other member (own.trans ownOther.symm)
      · exact different.2

/-- Assigning anchors makes nothing a target that was none. -/
theorem isAnchorTarget_of_assignAnchors {d : Document} {path : TreePath}
    (target : d.assignAnchors.IsAnchorTarget path) : d.IsAnchorTarget path := by
  rcases target with ⟨below, ⟨e, atPath, structural⟩, outside⟩ | fragment
  · exact isAnchorTarget_of_isStructural below atPath structural outside
  · rw [fullTextPaths_assignAnchors] at fragment
    exact Or.inr fragment

/-- A target of the assigned page has an identifier, and no other element has that one. -/
theorem exists_bind_id?_of_target {d : Document} {path : TreePath}
    (target : d.assignAnchors.IsAnchorTarget path) :
    ∃ id, (d.assignAnchors.at? path).bind Element.id? = some id ∧
      ∀ other, (d.assignAnchors.at? other).bind Element.id? = some id → other = path := by
  rcases target.exists_element with ⟨e, atPath⟩
  rcases exists_id?_of_target (isAnchorTarget_of_assignAnchors target) atPath with
    ⟨id, own, onlyHere⟩
  refine ⟨id, by rw [atPath]; exact own, ?_⟩
  intro other same
  rcases Option.bind_eq_some_iff.mp same with ⟨e', atOther, ownOther⟩
  apply onlyHere
  rw [idAttrAt?, atOther]
  exact (Element.id?_eq_some_iff.mp ownOther).1

/-- Assigning anchors a second time changes nothing. -/
theorem assignAnchors_assignAnchors (d : Document) :
    d.assignAnchors.assignAnchors = d.assignAnchors := by
  have targets : ∀ path ∈ d.assignAnchors.anchorOrder, d.assignAnchors.IsAnchorTarget path :=
    fun path member => mem_anchorOrder_iff.mp member
  rw [assignAnchors.eq_def d.assignAnchors]
  apply foldl_assignAt_of_ids_free
  · exact fun path member => (targets path member).ne_nil
  · intro path member
    rcases exists_bind_id?_of_target (targets path member) with ⟨id, own, onlyHere⟩
    refine ⟨id, own, ?_⟩
    intro reserved
    rcases mem_reservedIds_iff.mp reserved with ⟨other, e, noTarget, atOther, ownOther⟩
    have same : other = path := onlyHere other (by rw [atOther]; exact ownOther)
    exact noTarget (same ▸ targets path member)
  · apply (nodup_anchorOrder d.assignAnchors).imp_of_mem
    intro first second isFirst isSecond different same
    rcases exists_bind_id?_of_target (targets first isFirst) with ⟨id, own, onlyHere⟩
    exact different (onlyHere second (same.symm.trans own)).symm

end Document

end Folio
