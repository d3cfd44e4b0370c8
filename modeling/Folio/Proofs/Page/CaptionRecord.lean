import Folio.Proofs.Page.OutlineRecord
import Folio.Proofs.Page.SearchHit
import Mathlib.Data.List.Infix

namespace Folio

open Markup

/-!
# Captions and the records of figures

The first paragraph of a caption has no record of its own, since the record of the figure shows its
text.  The two are chosen by different rules.  A paragraph is left out for the caption that it
stands in directly, whichever figure that belongs to, and the record of a figure shows the caption
that comes first anywhere below it.  So the text is found in the record of the nearest figure if the
caption is the first one below that figure.  A second caption, or the caption of a figure in which
another figure with a caption comes first, is shown by no record.
-/

/-- The rule for figures. -/
def RecordRule.figures : RecordRule := recordRules[2]

theorem RecordRule.figures_mem : RecordRule.figures ∈ recordRules := List.getElem_mem _

theorem RecordRule.eq_figures_of_kind {rule : RecordRule} (isRule : rule ∈ recordRules)
    (isFigure : rule.kind = .figure) : rule = RecordRule.figures := by
  simp only [recordRules, List.mem_cons, List.not_mem_nil, or_false] at isRule
  rcases isRule with rfl | rfl | rfl | rfl
  · cases isFigure
  · cases isFigure
  · rfl
  · cases isFigure

/-- What stands first among the elements of a node, with no element in front of it. -/
theorem head?_childElements_of_leads {parent lead : Element} {i : Nat}
    (atChild : parent.child? i = some lead)
    (silent : ((parent.children.take i).all fun n => n.element?.isNone) = true) :
    parent.childElements.head? = some lead := by
  have nothing : Node.elements (parent.children.take i) = [] := by
    rw [Node.elements, List.filterMap_eq_nil_iff]
    intro n member
    exact Option.isNone_iff_eq_none.mp (List.all_eq_true.mp silent n member)
  have bound : i < parent.children.length :=
    (List.getElem?_eq_some_iff.mp (Element.child?_eq_some_iff.mp atChild)).1
  have here : parent.children[i] = lead.toNode :=
    (List.getElem?_eq_some_iff.mp (Element.child?_eq_some_iff.mp atChild)).2
  have divided : parent.children =
      parent.children.take i ++ lead.toNode :: parent.children.drop (i + 1) := by
    rw [← here, List.getElem_cons_drop, List.take_append_drop]
  rw [Node.elements] at nothing
  rw [Element.childElements, Node.elements, divided, List.filterMap_append, nothing]
  rfl

namespace Document

/-- The element that leads a caption, and the caption around it. -/
theorem caption_of_isCaptionLead {d : Document} {path : TreePath} {lead : Element}
    (leads : d.isCaptionLead path = true) (atPath : d.at? path = some lead) :
    ∃ caption, d.at? path.dropLast = some caption ∧ caption.tag = "figcaption" ∧
      caption.childElements.head? = some lead := by
  rcases List.eq_nil_or_concat path with rfl | ⟨front, i, rfl⟩
  · cases leads
  · rw [List.concat_eq_append] at leads atPath ⊢
    rw [isCaptionLead_concat] at leads
    rw [List.dropLast_concat]
    cases atFront : d.at? front with
    | none =>
        rw [atFront] at leads
        cases leads
    | some caption =>
        rw [atFront] at leads
        rcases Bool.and_eq_true_iff.mp leads with ⟨named, silent⟩
        have atChild : caption.child? i = some lead := by
          rw [← Element.at?_singleton, ← at?_append atFront]
          exact atPath
        refine ⟨caption, rfl, ?_, head?_childElements_of_leads atChild silent⟩
        simpa using (Bool.and_eq_true_iff.mp named).1

/-- The lead of a caption has no record of its own. -/
theorem kind_ne_paragraph_of_isCaptionLead {d : Document} {p : PlacedRecord}
    (leads : d.isCaptionLead p.path = true) (placed : p ∈ d.placedRecords) :
    p.record.kind ≠ .paragraph := by
  intro isParagraph
  have listed : p ∈ d.placedParagraphs :=
    d.filter_paragraph_placedRecords_sublist.subset
      (List.mem_filter.mpr ⟨placed, by simpa using isParagraph⟩)
  have selected := (List.mem_filter.mp (PlacedRecord.mem_readAt_iff.mp listed).1).2
  rw [leads] at selected
  cases selected

/-- Whether a figure is the nearest one around a path. -/
structure NearestFigure (d : Document) (path figure : TreePath) : Prop where
  around : figure <+: path
  proper : figure ≠ path
  isFigure : (d.at? figure).any (·.tag == "figure") = true
  nearest : ∀ other, other <+: path → other ≠ path →
    (d.at? other).any (·.tag == "figure") = true → other <+: figure

instance (d : Document) (path figure : TreePath) : Decidable (d.NearestFigure path figure) :=
  decidable_of_iff
    (figure <+: path ∧ figure ≠ path ∧ (d.at? figure).any (·.tag == "figure") = true ∧
      ∀ other ∈ path.inits, other ≠ path →
        (d.at? other).any (·.tag == "figure") = true → other <+: figure) <| by
    simp only [List.mem_inits]
    constructor
    · rintro ⟨around, proper, isFigure, nearest⟩
      exact ⟨around, proper, isFigure, nearest⟩
    · rintro ⟨around, proper, isFigure, nearest⟩
      exact ⟨around, proper, isFigure, nearest⟩

namespace NearestFigure

variable {d : Document} {path figure : TreePath}

theorem ne_nil (nearest : d.NearestFigure path figure) : figure ≠ [] := by
  rintro rfl
  have isFigure : ("article" == "figure") = true := nearest.isFigure
  exact absurd isFigure (by decide)

theorem prefix_dropLast (nearest : d.NearestFigure path figure) : figure <+: path.dropLast := by
  have isFront := nearest.around
  rcases List.eq_nil_or_concat path with rfl | ⟨front, i, rfl⟩
  · exact isFront
  · rw [List.concat_eq_append] at isFront ⊢
    rw [List.dropLast_concat]
    apply (List.prefix_concat_iff.mp isFront).resolve_left
    intro same
    exact nearest.proper (by rw [same, List.concat_eq_append])

end NearestFigure

/-- The place of the first caption below an element, in document order. -/
def captionBelow? (d : Document) (path : TreePath) : Option TreePath :=
  (d.at? path).bind fun e =>
    (e.allPaths fun c => c.tag == "figcaption").head?.map fun below => path ++ below

/-- A caption below a figure has one that comes first, which the record of the figure shows. -/
theorem exists_captionBelow? {d : Document} {figure place : TreePath} {e caption : Element}
    (atFigure : d.at? figure = some e) (below : figure <+: place) (proper : figure ≠ place)
    (atPlace : d.at? place = some caption) (isCaption : caption.tag = "figcaption") :
    ∃ first shown, d.captionBelow? figure = some first ∧ d.at? first = some shown ∧
      figureCaption e = (shown.childElements.head?.getD shown).normalText := by
  rcases below with ⟨rest, rfl⟩
  have listed : rest ∈ e.allPaths fun c => c.tag == "figcaption" := by
    apply Element.mem_allPaths_iff.mpr
    refine ⟨?_, caption, ?_, by simpa using isCaption⟩
    · intro empty
      exact proper (by rw [empty, List.append_nil])
    · rw [← at?_append atFigure]
      exact atPlace
  rcases List.exists_cons_of_ne_nil (List.ne_nil_of_mem listed) with ⟨first, others, paths⟩
  rcases Element.findBelow?_eq_some paths with ⟨shown, atFirst, -, found⟩
  refine ⟨figure ++ first, shown, ?_, ?_, ?_⟩
  · rw [captionBelow?, atFigure, Option.bind_some, paths]
    rfl
  · rw [at?_append atFigure]
    exact atFirst
  · rw [figureCaption, found]

theorem mentionsIndexing_assignAnchors {d : Document} (unmentioned : d.mentionsIndexing = false) :
    d.assignAnchors.mentionsIndexing = false := by
  rw [mentionsIndexing, Option.isSome_eq_false_iff, Option.isNone_iff_eq_none,
    Element.find?_eq_none_iff] at unmentioned ⊢
  intro path e' atPath'
  rcases exists_at?_of_assignAnchors atPath' with ⟨e, atPath, -, sameAttrs, -⟩
  have same : e'.hasAttr indexingAttr = e.hasAttr indexingAttr :=
    congrArg Option.isSome (sameAttrs indexingAttr (by decide))
  rw [same]
  exact unmentioned path e atPath

/-- The record of a figure is made by the rule for figures. -/
theorem recordAt_figures_of_kind {d : Document} {p : PlacedRecord} (placed : p ∈ d.placedRecords)
    (isFigure : p.record.kind = .figure) :
    RecordRule.figures.recordAt d p.path = some p.record := by
  rcases place_of_mem_placedRecords placed with rfl | ⟨rule, isRule, -, isRead⟩ | paragraph
  · cases isFigure
  · rw [kind_of_recordAt isRead] at isFigure
    rw [← RecordRule.eq_figures_of_kind isRule isFigure]
    exact isRead
  · rcases Option.map_eq_some_iff.mp (PlacedRecord.mem_readAt_iff.mp paragraph).2 with
      ⟨_, -, isRead⟩
    rw [← isRead] at isFigure
    cases isFigure

/-- Every figure outside code has a record, on a page that leaves indexing alone. -/
theorem exists_record_of_figure {d : Document} (unmentioned : d.mentionsIndexing = false)
    {path : TreePath} {e : Element} (below : path ≠ [])
    (atPath : d.assignAnchors.at? path = some e) (isFigure : e.tag = "figure")
    (outside : d.assignAnchors.OutsideCode path) :
    ∃ record, (⟨path, record⟩ : PlacedRecord) ∈ d.assignAnchors.placedRecords ∧
      record.kind = .figure ∧ record.text = figureCaption e := by
  have silent := mentionsIndexing_assignAnchors unmentioned
  have structural : isStructural e = true := by simp [isStructural, isFigure]
  have target := isAnchorTarget_of_isStructural below atPath structural outside
  have applies : RecordRule.figures.applies e = true := by
    rcases exists_id?_of_target target atPath with ⟨id, own, -⟩
    change (e.tag == "figure" && e.id?.isSome) = true
    rw [isFigure, own]
    rfl
  have enabled : indexingFlag? d.assignAnchors.root ≠ some false := by
    rw [indexingFlag?_of_at? silent (show d.assignAnchors.at? [] = _ from rfl)]
    simp
  have isRead : ∃ record, RecordRule.figures.recordAt d.assignAnchors path = some record ∧
      record.kind = .figure ∧ record.text = figureCaption e := by
    rw [RecordRule.recordAt, atPath]
    exact ⟨_, rfl, rfl, rfl⟩
  rcases isRead with ⟨record, made, kind, text⟩
  refine ⟨record, ?_, kind, text⟩
  apply mem_placedRecords_of_rule enabled RecordRule.figures_mem
  apply PlacedRecord.mem_readAt_iff.mpr
  refine ⟨List.mem_filter.mpr ⟨?_, isIndexed_of_unmentioned silent path⟩, made⟩
  exact mem_allPaths_iff.mpr ⟨below, e, atPath, applies⟩

/-! ## What becomes of the lead -/

/-- The lead of a caption has no record of its own, on a page that has its identifiers and leaves
indexing alone.  The nearest figure around it has one record of its kind, with an identifier, and
the record shows the first caption below the figure.  If that is the caption of the lead, it shows
the text of the lead. -/
theorem figure_shows_captionLead {d : Document} (unmentioned : d.mentionsIndexing = false)
    {path : TreePath} {lead : Element} (fragment : path ∈ d.assignAnchors.fullTextPaths)
    (leads : d.assignAnchors.isCaptionLead path = true)
    (atPath : d.assignAnchors.at? path = some lead) :
    d.assignAnchors.placedRecords.map PlacedRecord.record = d.assignAnchors.searchRecords ∧
      (∀ p ∈ d.assignAnchors.placedRecords, p.path = path → p.record.kind ≠ .paragraph) ∧
      ∀ figure, d.assignAnchors.NearestFigure path figure →
        ∃ record place caption, ⟨figure, record⟩ ∈ d.assignAnchors.placedRecords ∧
          record.kind = .figure ∧ record.id ≠ "" ∧
          (∀ q ∈ d.assignAnchors.placedRecords,
            q.path = figure → q.record.kind = .figure → q.record = record) ∧
          d.assignAnchors.captionBelow? figure = some place ∧
          d.assignAnchors.at? place = some caption ∧
          record.text = (caption.childElements.head?.getD caption).normalText ∧
          (place = path.dropLast → record.text = lead.normalText) := by
  rcases caption_of_isCaptionLead leads atPath with ⟨around, atAround, isCaption, first⟩
  rcases place_of_mem_fullTextPaths fragment with ⟨-, -, outsidePath⟩
  refine ⟨map_record_placedRecords _, ?_, ?_⟩
  · intro p placed same
    exact kind_ne_paragraph_of_isCaptionLead (same ▸ leads) placed
  · intro figure nearest
    rcases (Option.any_eq_true _ _).mp nearest.isFigure with ⟨e, atFigure, named⟩
    have isFigure : e.tag = "figure" := by simpa using named
    -- The caption of the lead is itself below the figure, so the figure has a first caption.
    have apart : figure ≠ path.dropLast := by
      rintro rfl
      have same : e = around := Option.some.inj (atFigure.symm.trans atAround)
      rw [same, isCaption] at isFigure
      exact absurd isFigure (by decide)
    have outside := outsidePath.of_prefix nearest.around
    rcases exists_record_of_figure unmentioned nearest.ne_nil atFigure isFigure outside with
      ⟨record, placed, kind, text⟩
    rcases exists_captionBelow? atFigure nearest.prefix_dropLast apart atAround isCaption with
      ⟨place, caption, isFirst, atPlace, shown⟩
    refine ⟨record, place, caption, placed, kind, ?_, ?_, isFirst, atPlace, text.trans shown, ?_⟩
    · exact id_ne_empty_of_mem_placedRecords placed nearest.ne_nil outside
    · intro q member same isRecord
      have made := recordAt_figures_of_kind member isRecord
      rw [same, recordAt_figures_of_kind placed kind] at made
      exact (Option.some.inj made).symm
    · intro same
      rw [same, atAround] at atPlace
      rw [text, shown, ← Option.some.inj atPlace, first]
      rfl

/-- A page with a figure whose caption has two paragraphs. -/
def captionedFigure : Document where
  children :=
    [.element "figure" (Dict.ofList [("id", "f")])
      [.element "figcaption" Dict.empty
        [.element "p" (Dict.ofList [("id", "a")]) [.text "One"],
          .element "p" (Dict.ofList [("id", "b")]) [.text "Two"]]]]

/-- The record of the figure shows the first paragraph, and the second has a record of its own. -/
theorem figure_shows_captionLead_captionedFigure :
    captionedFigure.assignAnchors.searchRecords.map (fun r => (r.id, r.text)) =
        [("", ""), ("f", "One"), ("b", "Two")] ∧
      captionedFigure.assignAnchors.captionBelow? [0] = some [0, 0] ∧
      ∃ record, ⟨[0], record⟩ ∈ captionedFigure.assignAnchors.placedRecords ∧
        record.kind = .figure ∧ record.text = "One" := by
  have fragment : [0, 0, 0] ∈ captionedFigure.assignAnchors.fullTextPaths := by decide +kernel
  have leads : captionedFigure.assignAnchors.isCaptionLead [0, 0, 0] = true := by decide +kernel
  have nearest : captionedFigure.assignAnchors.NearestFigure [0, 0, 0] [0] := by decide +kernel
  have text : (captionedFigure.assignAnchors.at? [0, 0, 0]).map Element.normalText =
      some "One" := by
    decide +kernel
  rcases Option.map_eq_some_iff.mp text with ⟨lead, atPath, shows⟩
  have isFirst : captionedFigure.assignAnchors.captionBelow? [0] = some [0, 0] := by decide +kernel
  have shown := figure_shows_captionLead (by decide +kernel) fragment leads atPath
  rcases shown.2.2 [0] nearest with ⟨record, place, caption, placed, kind, -, -, first, -, -, same⟩
  refine ⟨by decide +kernel, isFirst, record, placed, kind, ?_⟩
  rw [same (Option.some.inj (first.symm.trans isFirst)), shows]

/-- A page with a figure inside a figure, each with a caption. -/
def figureInFigure : Document where
  children :=
    [.element "figure" (Dict.ofList [("id", "o")])
      [.element "figure" (Dict.ofList [("id", "i")])
        [.element "figcaption" Dict.empty
          [.element "p" (Dict.ofList [("id", "a")]) [.text "Inner"]]],
        .element "figcaption" Dict.empty
          [.element "p" (Dict.ofList [("id", "b")]) [.text "Outer"]]]]

/-- The caption of the outer figure is shown by no record: the record of that figure shows the
caption of the inner one. -/
theorem not_forall_figure_shows_captionLead :
    ¬ ∀ (d : Document) (path figure : TreePath) (lead : Element), d.mentionsIndexing = false →
      path ∈ d.assignAnchors.fullTextPaths → d.assignAnchors.isCaptionLead path = true →
      d.assignAnchors.at? path = some lead → d.assignAnchors.NearestFigure path figure →
        ∃ p ∈ d.assignAnchors.placedRecords, p.path = figure ∧ p.record.kind = .figure ∧
          p.record.text = lead.normalText := by
  intro claimed
  have text : (figureInFigure.assignAnchors.at? [0, 1, 0]).map Element.normalText =
      some "Outer" := by
    decide +kernel
  rcases Option.map_eq_some_iff.mp text with ⟨lead, atPath, shows⟩
  have shown := claimed figureInFigure [0, 1, 0] [0] lead (by decide +kernel) (by decide +kernel)
    (by decide +kernel) atPath (by decide +kernel)
  rw [shows] at shown
  revert shown
  decide +kernel

end Document

end Folio
