import Folio.Proofs.Page.OutlineRecord
import Folio.Proofs.Page.RecordPlace

namespace Folio

open Markup

/-!
# The labels of callouts

A callout is named in two places.  Its own record shows the first `strong` element anywhere below
it; the records of what stands in it name, among their parents, its first child that is a heading or
a `strong` element.  The two are the same element if the first `strong` element is a child of the
callout and no heading child stands in front of it.  Otherwise they are chosen apart: a `strong`
element inside a paragraph is shown by the record and is no label, and a heading is a label that the
record does not show.
-/

namespace Markup.Element

def isStrong (e : Element) : Bool := e.tag == "strong"

/-- Whether the children in front of the first `strong` child, or all of them if there is none, are
no headings and hold no `strong` element. -/
def strongComesFirst (e : Element) : Bool :=
  (e.childElements.takeWhile (!·.isStrong)).all fun c =>
    !c.isHeading && (c.findBelow? isStrong).isNone

/-- Then the first `strong` element below is the first child that is one or a heading. -/
theorem findBelow?_of_strongComesFirst {e : Element} (first : e.strongComesFirst = true) :
    e.findBelow? isStrong = e.findChild? fun c => c.isHeading || c.isStrong := by
  rw [strongComesFirst, childElements] at first
  rw [findBelow?, findChild?, childElements]
  revert first
  induction e.children with
  | nil => exact fun _ => rfl
  | cons n nodes inductionHypothesis =>
      intro first
      cases n with
      | element tag attrs children =>
          change ((Node.element tag attrs children).find? isStrong).or (Node.findIn? isStrong nodes) =
            List.find? _ (⟨tag, attrs, children⟩ :: Node.elements nodes)
          change ((⟨tag, attrs, children⟩ :: Node.elements nodes).takeWhile _).all _ = true at first
          cases strong : isStrong ⟨tag, attrs, children⟩ with
          | true => simp [Node.find?, strong]
          | false =>
              -- The child is passed by: it is no heading, and the search below it finds nothing.
              rw [List.takeWhile_cons_of_pos (by simp [strong]), List.all_cons,
                Bool.and_eq_true_iff, Bool.and_eq_true_iff] at first
              rcases first with ⟨⟨noHeading, nothing⟩, first⟩
              have found : Node.findIn? isStrong children = none :=
                Option.isNone_iff_eq_none.mp nothing
              have passed : isHeading ⟨tag, attrs, children⟩ = false := by simpa using noHeading
              simpa [Node.find?, strong, found, passed] using inductionHypothesis first
      | text s => exact inductionHypothesis first
      | comment s => exact inductionHypothesis first
      | raw markup => exact inductionHypothesis first

end Markup.Element

/-- The rule for callouts. -/
def RecordRule.callouts : RecordRule := recordRules[3]

theorem RecordRule.callouts_mem : RecordRule.callouts ∈ recordRules := List.getElem_mem _

/-- Where the first `strong` element comes first, a callout gives the label that its record shows,
and none if that is empty. -/
theorem parentLabel?_of_strongComesFirst {e : Element} (callout : e.isCallout = true)
    (first : e.strongComesFirst = true) :
    parentLabel? e = (some (calloutText e)).filter (!·.isEmpty) := by
  have chosen : (e.findChild? fun c => c.isHeading || c.tag == "strong") =
      e.findBelow? Element.isStrong := (Element.findBelow?_of_strongComesFirst first).symm
  have shown : calloutText e =
      ((e.findBelow? Element.isStrong).map Element.normalText).getD "" := rfl
  rw [parentLabel?, callout, Bool.or_true, if_pos rfl, chosen, shown]
  cases e.findBelow? Element.isStrong <;> rfl

namespace Document

/-- What a record names as its parents: the labels of what stands around its element, and behind
them, for running text, the caption of the nearest figure. -/
theorem parents_of_mem_placedRecords {d : Document} {p : PlacedRecord}
    (member : p ∈ d.placedRecords) (below : p.path ≠ []) :
    p.record.parents =
      d.parentsAt p.path ++ if p.record.kind = .paragraph then d.captionAround p.path else [] := by
  rcases place_of_mem_placedRecords member with rfl | ⟨rule, isRule, -, isRead⟩ | paragraph
  · exact absurd rfl below
  · have structural : p.record.kind ≠ .paragraph := by
      rw [kind_of_recordAt isRead]
      revert rule
      simp [recordRules]
    rw [if_neg structural, List.append_nil]
    rcases Option.map_eq_some_iff.mp isRead with ⟨e, -, made⟩
    rw [← made]
  · rcases Option.map_eq_some_iff.mp (PlacedRecord.mem_readAt_iff.mp paragraph).2 with
      ⟨e, -, made⟩
    rw [← made]
    rfl

/-- An indexed callout has a record, which shows the first `strong` element below it.  The records
of what stands in the callout name, behind the parents of that record, the label of the callout if
it has one, and then the labels of what stands between.  Label and text are the same, an empty text
for no label, if the first `strong` element below the callout is a child of it that no heading child
precedes, or if there is neither. -/
theorem calloutRecord_label {d : Document} {path : TreePath} {e : Element}
    (enabled : indexingFlag? d.root ≠ some false) (below : path ≠ [])
    (atPath : d.at? path = some e) (callout : e.isCallout = true)
    (indexed : d.isIndexed path = true) :
    ∃ record, (∀ p ∈ RecordRule.callouts.placedRecords d, p.path = path → p.record = record) ∧
      ⟨path, record⟩ ∈ RecordRule.callouts.placedRecords d ∧
      ⟨path, record⟩ ∈ d.placedRecords ∧ record.text = calloutText e ∧
      (∀ p ∈ d.placedRecords, path <+: p.path → path ≠ p.path → ∃ around,
        d.ancestors p.path = d.ancestors path ++ e :: around ∧
          p.record.parents =
            record.parents ++ (parentLabel? e).toList ++ around.filterMap parentLabel? ++
              if p.record.kind = .paragraph then d.captionAround p.path else []) ∧
      (e.strongComesFirst = true →
        parentLabel? e = (some record.text).filter (!·.isEmpty)) := by
  have isRead : RecordRule.callouts.recordAt d path = some
      { text := calloutText e
        kind := .heading
        id := e.id?.getD ""
        parents := d.parentsAt path
        classes := joinClasses (e.attr? "class").toList } := by
    rw [RecordRule.recordAt, atPath]
    rfl
  have listed : path ∈ (d.allPaths RecordRule.callouts.applies).filter d.isIndexed :=
    List.mem_filter.mpr ⟨mem_allPaths_iff.mpr ⟨below, e, atPath, callout⟩, indexed⟩
  have placed : ⟨path, _⟩ ∈ RecordRule.callouts.placedRecords d :=
    PlacedRecord.mem_readAt_iff.mpr ⟨listed, isRead⟩
  refine ⟨_, ?_, placed, mem_placedRecords_of_rule enabled RecordRule.callouts_mem placed, rfl, ?_,
    parentLabel?_of_strongComesFirst callout⟩
  · rintro p member rfl
    exact Option.some.inj ((PlacedRecord.mem_readAt_iff.mp member).2.symm.trans isRead)
  · rintro p member ⟨rest, divided⟩ proper
    cases rest with
    | nil => exact absurd ((List.append_nil path).symm.trans divided) proper
    | cons i rest =>
        have around : d.ancestors p.path = d.ancestors path ++ e.ancestors (i :: rest) := by
          rw [← divided, ancestors, Element.ancestors_append, ← at?, atPath]
          rfl
        rw [Element.ancestors] at around
        refine ⟨_, around, ?_⟩
        have belowRoot : p.path ≠ [] := by
          rw [← divided]
          simp
        rw [parents_of_mem_placedRecords member belowRoot, parentsAt, around, List.filterMap_append]
        cases label : parentLabel? e <;> simp [label, parentsAt]

/-- A page with a callout that has a `strong` child. -/
def boldCallout : Document where
  children :=
    [.element "div" (Dict.ofList [("class", "info")])
      [.element "strong" Dict.empty [.text "Note"],
        .element "p" Dict.empty [.text "Read this."]]]

/-- The paragraph in the callout names the text of the callout's record. -/
theorem calloutRecord_label_boldCallout :
    ∃ record, ⟨[0], record⟩ ∈ boldCallout.placedRecords ∧ record.text = "Note" ∧
      boldCallout.fullTextPaths = [[0, 1]] ∧
      ∀ p ∈ boldCallout.placedRecords, [0] <+: p.path → [0] ≠ p.path →
        record.parents ++ ["Note"] <+: p.record.parents := by
  have atPath : boldCallout.at? [0] = some _ := rfl
  rcases calloutRecord_label (by decide) (by decide) atPath (by decide) (by decide) with
    ⟨record, -, -, placed, text, inside, agree⟩
  have shown : record.text = "Note" := text.trans (by decide)
  refine ⟨record, placed, shown, by decide, ?_⟩
  intro p member below proper
  rcases inside p member below proper with ⟨around, -, parents⟩
  rw [agree (by decide), shown, List.append_assoc] at parents
  exact ⟨_, parents.symm⟩

/-- A page with a callout whose `strong` element stands in a paragraph. -/
def boldParagraph : Document where
  children :=
    [.element "div" (Dict.ofList [("class", "info")])
      [.element "p" Dict.empty
        [.element "strong" Dict.empty [.text "Note"], .text " this."]]]

/-- The paragraph does not name the text of the callout's record, since the callout has no label. -/
theorem not_forall_calloutRecord_label :
    ¬ ∀ d : Document, ∀ callout ∈ RecordRule.callouts.placedRecords d,
      (d.at? callout.path).any (fun e => e.tag != "section" && e.tag != "article") = true →
      ∀ inside ∈ d.placedRecords, callout.path <+: inside.path → callout.path ≠ inside.path →
        callout.record.parents ++ [callout.record.text].filter (!·.isEmpty) <+:
          inside.record.parents := by
  intro agree
  have named := agree boldParagraph
  revert named
  decide +kernel

end Document

end Folio
