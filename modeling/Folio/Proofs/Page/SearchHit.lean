import Folio.Proofs.Page.Pass
import Folio.Proofs.Page.RecordPlace

namespace Folio

open Markup

/-!
# Search hits of a finished page

A search hit leads to its element by the identifier in the record.  The last pass of a rendering
gives identifiers to full-text fragments, headings, callouts and figures, and the records are read
off the page afterwards, by walks of their own.  Writing identifiers changes no tag and no other
attribute, so the walks select the same elements on the finished page as before the last pass, and
what is selected has got an identifier that nothing else on the page has.
-/

namespace Document

theorem fullTextPaths_assignAnchors (d : Document) :
    d.assignAnchors.fullTextPaths = d.fullTextPaths := by
  have sameTest : ∀ tag : String, ∀ e e' : Element, e'.tag = e.tag →
      (∀ name, name ≠ "id" → e'.attr? name = e.attr? name) → (e'.tag == tag) = (e.tag == tag) := by
    intro tag e e' sameTag _
    rw [sameTag]
  have samePaths : ∀ tag : String,
      d.assignAnchors.pathsOutsideCode (fun e => e.tag == tag) =
        d.pathsOutsideCode fun e => e.tag == tag :=
    fun tag => d.pathsOutsideCode_assignAnchors (sameTest tag)
  simp only [fullTextPaths, samePaths]

/-- A target has an identifier on the finished page, and nothing else has that identifier. -/
theorem exists_id?_of_target {d : Document} {path : TreePath} (target : d.IsAnchorTarget path)
    {e : Element} (atPath : d.assignAnchors.at? path = some e) :
    ∃ id, e.id? = some id ∧
      ∀ other, d.assignAnchors.idAttrAt? other = some id → other = path := by
  rcases target.exists_element with ⟨before, atPathBefore⟩
  rcases exists_given_of_target target atPathBefore with ⟨id, given, labelled⟩
  have own : e.attr? "id" = some id := by
    have read := idAttrAt?_of_labelAt?_eq labelled
    rw [idAttrAt?, atPath, Table.get?_insert_self] at read
    exact read
  have nonempty : id ≠ "" := (assignments_fresh _ _ _ given).1
  refine ⟨id, Element.id?_eq_some_iff.mpr ⟨own, nonempty⟩, ?_⟩
  intro other same
  by_contra different
  exact idAttrAt?_assignAnchors_ne given different same

/-- A heading, callout or figure that is not inside code is a target, whether it is seen before or
after. -/
theorem isAnchorTarget_of_isStructural {d : Document} {path : TreePath} {e : Element}
    (below : path ≠ []) (atPath : d.assignAnchors.at? path = some e)
    (structural : isStructural e = true) (outside : d.assignAnchors.OutsideCode path) :
    d.IsAnchorTarget path := by
  rcases exists_at?_of_assignAnchors atPath with ⟨before, atPathBefore, sameTag, sameAttrs, -⟩
  refine Or.inl ⟨below, ⟨before, atPathBefore, ?_⟩, ?_⟩
  · rw [isStructural, Element.isHeading, Element.isCallout, Element.hasClass, Element.hasClass,
      sameTag, sameAttrs "class" (by decide)] at structural
    exact structural
  · exact (d.outsideCode_assignAnchors_iff path).mp outside

/-- The record of a fragment names the identifier of its element, which is the only one. -/
theorem id_of_mem_placedParagraphs {d : Document} {p : PlacedRecord}
    (member : p ∈ d.assignAnchors.placedParagraphs) :
    p.record.id ≠ "" ∧ d.assignAnchors.idAttrAt? p.path = some p.record.id ∧
      ∀ other, d.assignAnchors.idAttrAt? other = some p.record.id → other = p.path := by
  rcases PlacedRecord.mem_readAt_iff.mp member with ⟨selected, isRead⟩
  have fragment : p.path ∈ d.fullTextPaths := by
    rw [← fullTextPaths_assignAnchors]
    exact List.mem_of_mem_filter selected
  rcases exists_element_of_paragraphAt isRead with ⟨e, atPath, named⟩
  rcases exists_id?_of_target (Or.inr fragment) atPath with ⟨id, own, onlyHere⟩
  rw [own, Option.getD_some] at named
  rw [named]
  refine ⟨(Element.id?_eq_some_iff.mp own).2, ?_, onlyHere⟩
  rw [idAttrAt?, atPath]
  exact (Element.id?_eq_some_iff.mp own).1

/-- No two fragments of a finished page have one identifier. -/
theorem nodup_ids_placedParagraphs (d : Document) :
    (d.assignAnchors.placedParagraphs.map fun p => p.record.id).Nodup := by
  have places : (d.assignAnchors.placedParagraphs.map PlacedRecord.path).Nodup := by
    rw [placedParagraphs, PlacedRecord.map_path_readAt]
    exact (d.assignAnchors.nodup_fullTextPaths.filter _).filter _
  rw [List.Nodup, List.pairwise_map] at places ⊢
  apply places.imp_of_mem
  intro p q memberP memberQ different sameId
  have ownP := (id_of_mem_placedParagraphs memberP).2.1
  rw [sameId] at ownP
  exact different ((id_of_mem_placedParagraphs memberQ).2.2 p.path ownP)

theorem id?_isSome_or_isCallout_of_applies {rule : RecordRule} (isRule : rule ∈ recordRules)
    {e : Element} (applies : rule.applies e = true) : e.id?.isSome = true ∨ e.isCallout = true := by
  simp only [recordRules, List.mem_cons, List.not_mem_nil, or_false] at isRule
  rcases isRule with rfl | rfl | rfl | rfl
  · exact Or.inl (Bool.and_eq_true_iff.mp applies).2
  · exact Or.inl (Bool.and_eq_true_iff.mp applies).2
  · exact Or.inl (Bool.and_eq_true_iff.mp applies).2
  · exact Or.inr applies

/-- On a finished page every record of an element outside code names an identifier; the article may
have none. -/
theorem id_ne_empty_of_mem_placedRecords {d : Document} {p : PlacedRecord}
    (member : p ∈ d.assignAnchors.placedRecords) (below : p.path ≠ [])
    (outside : d.assignAnchors.OutsideCode p.path) : p.record.id ≠ "" := by
  rcases place_of_mem_placedRecords member with rfl | ⟨rule, isRule, listed, isRead⟩ | paragraph
  · exact absurd rfl below
  · rcases mem_allPaths_iff.mp listed with ⟨-, e, atPath, applies⟩
    have identified : ∃ id, e.id? = some id := by
      rcases id?_isSome_or_isCallout_of_applies isRule applies with has | callout
      · exact Option.isSome_iff_exists.mp has
      · have structural : isStructural e = true := by
          rw [isStructural, callout, Bool.or_true, Bool.true_or]
        have target := isAnchorTarget_of_isStructural below atPath structural outside
        rcases exists_id?_of_target target atPath with ⟨id, own, -⟩
        exact ⟨id, own⟩
    rcases identified with ⟨id, own⟩
    rcases exists_element_of_recordAt isRead with ⟨e', atPath', named⟩
    have same : e' = e := Option.some.inj (atPath'.symm.trans atPath)
    rw [same, own, Option.getD_some] at named
    rw [named]
    exact (Element.id?_eq_some_iff.mp own).2
  · exact (id_of_mem_placedParagraphs paragraph).1

end Document

/-! ## The finished page -/

namespace Renderer

variable (r : Renderer)

/-- What a rendering makes of a page has had its anchors assigned. -/
theorem exists_assignAnchors_of_transform {d : Document} {finished : Noted Document}
    (transformed : r.transform d = some finished) :
    ∃ before : Document, finished.value = before.assignAnchors := by
  rcases Option.map_eq_some_iff.mp transformed with ⟨hooked, -, rfl⟩
  exact ⟨(r.unanchored hooked).value, r.value_runPasses hooked⟩

/-- No search hit of a finished page is dead, whatever the hooks of the caller have done.  A record
names the identifier of its own element.  The records of running text all name one, no two of them
the same, and no other element of the page has it.  All other records of elements outside code name
one as well, except that of the article. -/
theorem transform_searchRecords_lead {d : Document} {finished : Noted Document}
    (transformed : r.transform d = some finished) :
    finished.value.placedRecords.map PlacedRecord.record = finished.value.searchRecords ∧
      (∀ p ∈ finished.value.placedRecords,
        ∃ e, finished.value.at? p.path = some e ∧ p.record.id = e.id?.getD "") ∧
      ((finished.value.searchRecords.filter (·.kind = .paragraph)).map SearchRecord.id).Nodup ∧
      (∀ p ∈ finished.value.placedRecords, p.record.kind = .paragraph →
        p.record.id ≠ "" ∧ finished.value.idAttrAt? p.path = some p.record.id ∧
          ∀ other, finished.value.idAttrAt? other = some p.record.id → other = p.path) ∧
      ∀ p ∈ finished.value.placedRecords, p.path ≠ [] →
        finished.value.OutsideCode p.path → p.record.id ≠ "" := by
  rcases r.exists_assignAnchors_of_transform transformed with ⟨before, assigned⟩
  rw [assigned]
  have paragraphs := before.assignAnchors.filter_paragraph_placedRecords_sublist
  refine ⟨Document.map_record_placedRecords _,
    fun _ member => Document.exists_element_of_mem_placedRecords member, ?_, ?_, ?_⟩
  · rw [← Document.map_record_placedRecords, List.filter_map, List.map_map]
    exact before.nodup_ids_placedParagraphs.sublist (paragraphs.map _)
  · intro p member isParagraph
    have listed : p ∈ before.assignAnchors.placedParagraphs :=
      paragraphs.subset (List.mem_filter.mpr ⟨member, by simpa using isParagraph⟩)
    exact Document.id_of_mem_placedParagraphs listed
  · intro p member below outside
    exact Document.id_ne_empty_of_mem_placedRecords member below outside

/-- A page with two paragraphs for which the author wrote one identifier, and with a callout that
has none. -/
def doubledId : Document where
  children :=
    [.element "p" (Dict.ofList [("id", "x")]) [.text "one"],
      .element "div" (Dict.ofList [("class", "info")])
        [.element "p" (Dict.ofList [("id", "x")]) [.text "two"]]]

/-- The second paragraph gets another identifier, and the callout gets one. -/
theorem transform_searchRecords_lead_doubledId :
    ∃ finished, bare.transform doubledId = some finished ∧
      (finished.value.searchRecords.filter (·.kind = .paragraph)).map SearchRecord.id =
        ["x", "x_0"] ∧
      ((finished.value.searchRecords.filter (·.kind = .paragraph)).map SearchRecord.id).Nodup ∧
      ∀ p ∈ finished.value.placedRecords, p.path ≠ [] →
        finished.value.OutsideCode p.path → p.record.id ≠ "" := by
  have transformed : bare.transform doubledId = some (bare.runPasses doubledId) := rfl
  rcases bare.transform_searchRecords_lead transformed with ⟨-, -, distinct, -, named⟩
  exact ⟨_, transformed, by decide +kernel, distinct, named⟩

end Renderer

end Folio
