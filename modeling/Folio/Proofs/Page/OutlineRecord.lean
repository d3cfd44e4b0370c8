import Folio.Page.SearchRecord
import Folio.Proofs.Page.OutlineTrail
import Mathlib.Data.List.Basic

namespace Folio

open Markup

/-!
# Outline entries and search records

The outline of a page nests, and its search records are a flat list in which every record names the
sections around its own.  Both come from walks that keep the elements around the one that they have
come to.  The walk of the outline goes below listed sections only, the walk of the records goes
everywhere, so on a page that leaves indexing alone the entries of the outline are found among the
records, in the same order and with the same sections around them.

The texts of the two agree as far as their rules do.  An entry shows the first heading of its
section, a record all of them; and the label that a section gives to records inside it is its first
heading or `strong` element, whichever comes first.
-/

namespace Document

/-- Whether an element of a page has the attribute that switches indexing. -/
def mentionsIndexing (d : Document) : Bool :=
  (d.root.toNode.find? fun e => e.hasAttr indexingAttr).isSome

theorem indexingFlag?_of_at? {d : Document} (unmentioned : d.mentionsIndexing = false)
    {path : TreePath} {e : Element} (atPath : d.at? path = some e) : indexingFlag? e = none := by
  have nowhere := Option.isNone_iff_eq_none.mp (Option.isSome_eq_false_iff.mp unmentioned)
  have lacks := Element.find?_eq_none_iff.mp nowhere path e atPath
  have unset : e.attr? indexingAttr = none :=
    Option.isNone_iff_eq_none.mp (Option.isSome_eq_false_iff.mp lacks)
  rw [indexingFlag?, unset]
  rfl

theorem isIndexed_of_unmentioned {d : Document} (unmentioned : d.mentionsIndexing = false)
    (path : TreePath) : d.isIndexed path = true := by
  have silent : ∀ e ∈ (d.at? path).toList ++ (d.ancestors path).reverse,
      indexingFlag? e = none := by
    intro e member
    rcases List.mem_append.mp member with here | around
    · exact indexingFlag?_of_at? unmentioned (Option.mem_toList.mp here)
    · rcases Element.mem_ancestors_iff.mp (List.mem_reverse.mp around) with ⟨front, -, -, atFront⟩
      exact indexingFlag?_of_at? unmentioned atFront
  rw [isIndexed, List.findSome?_eq_none_iff.mpr silent]
  rfl

end Document

namespace RecordRule

/-- The rule for sections. -/
def sections : RecordRule := recordRules.head (by simp [recordRules])

/-- The record that a rule has for a stop. -/
def recordOf (rule : RecordRule) (s : Stop) : SearchRecord where
  text := rule.text s.element
  kind := rule.kind
  id := s.element.id?.getD ""
  parents := s.around.filterMap parentLabel?
  classes := joinClasses (rule.mark s.element ++ (s.element.attr? "class").toList)

/-- The records of a rule are those of a walk over the whole page. -/
theorem records_eq (rule : RecordRule) {d : Document} (unmentioned : d.mentionsIndexing = false) :
    rule.records d =
      (Node.stopsIn (fun _ => true) rule.applies [d.root] d.children).map rule.recordOf := by
  have indexed : (d.allPaths rule.applies).filter d.isIndexed = d.allPaths rule.applies :=
    List.filter_eq_self.mpr fun path _ => d.isIndexed_of_unmentioned unmentioned path
  have walked : (d.allPaths rule.applies).filterMap (d.root.stopAt? []) =
      Node.stopsIn (fun _ => true) rule.applies [d.root] d.children :=
    Node.filterMap_stopAt?_pathsFrom d.children d.root [] [] rfl
  have read : rule.recordAt d = fun path => (d.root.stopAt? [] path).map rule.recordOf := by
    funext path
    rw [recordAt, Element.stopAt?, Option.map_map]
    rfl
  rw [records, indexed, read, ← walked, List.map_filterMap]

end RecordRule

namespace Markup.Element

/-- Whether an element has a `strong` child in front of which there is no heading child. -/
def strongLeads (e : Element) : Bool :=
  (e.childElements.takeWhile (!·.isHeading)).any (·.tag == "strong")

/-- If no `strong` leads, the first heading or `strong` child is the first heading child. -/
theorem findChild?_of_not_strongLeads {e : Element} (headed : e.strongLeads = false) :
    (e.findChild? fun c => c.isHeading || c.tag == "strong") = e.findChild? isHeading := by
  rw [strongLeads] at headed
  rw [findChild?, findChild?]
  revert headed
  induction e.childElements with
  | nil => exact fun _ => rfl
  | cons c elements inductionHypothesis =>
      intro headed
      cases heading : c.isHeading with
      | true => simp [heading]
      | false =>
          rw [List.takeWhile_cons_of_pos (by simp [heading]), List.any_cons,
            Bool.or_eq_false_iff] at headed
          simpa [heading, headed.1] using inductionHypothesis headed.2

end Markup.Element

theorem parentLabel?_of_not_strongLeads {e : Element}
    (labels : (e.tag == "section" || e.tag == "article") = true) (headed : e.strongLeads = false) :
    parentLabel? e = (some (OutlineEntry.headingOf e.children)).filter (!·.isEmpty) := by
  rw [parentLabel?, labels, Bool.true_or, if_pos rfl, e.findChild?_of_not_strongLeads headed,
    OutlineEntry.headingOf, Element.findChild?, Element.childElements]
  cases (Node.elements e.children).find? Element.isHeading with
  | none => rfl
  | some heading => rfl

theorem filterMap_parentLabel?_of_not_strongLeads {around : List Element}
    (labels : ∀ a ∈ around, (a.tag == "section" || a.tag == "article") = true)
    (headed : ∀ a ∈ around, a.strongLeads = false) :
    around.filterMap parentLabel? =
      (around.map fun a => (OutlineEntry.ofElement a).heading).filter (!·.isEmpty) := by
  rw [← List.filterMap_eq_filter, List.filterMap_map]
  apply List.filterMap_congr
  intro a member
  rw [parentLabel?_of_not_strongLeads (labels a member) (headed a member)]
  rfl

/-- The text of a record is the heading of the entry, if there is one heading only. -/
theorem headingText_of_singleton {e h : Element}
    (only : e.childElements.filter Element.isHeading = [h]) :
    headingText e = (OutlineEntry.ofElement e).heading := by
  have first : (Node.elements e.children).find? Element.isHeading = some h := by
    rw [← List.head?_filter]
    exact congrArg List.head? only
  rw [headingText, only, OutlineEntry.ofElement, OutlineEntry.heading, OutlineEntry.headingOf,
    first]
  simp [Element.normalText, String.join]

/-! ## Entries and records -/

namespace Document

/-- The records of listed sections are among those of all sections, in order. -/
theorem map_recordOf_listedSections_sublist {d : Document}
    (unmentioned : d.mentionsIndexing = false) :
    (d.listedSections.map RecordRule.sections.recordOf).Sublist
      (RecordRule.sections.records d) := by
  rw [RecordRule.sections.records_eq unmentioned]
  exact (Node.stopsIn_sublist (fun _ _ => rfl) d.children [d.root]).map _

/-- On a page that leaves indexing alone, the outline and the search records agree.  The outline in
pre-order, each entry with the entries around it, is read off the listed sections; their records are
among those of all sections, which follow the record of the article, in the same order and with the
same identifiers.  A record names the labels of what is around its section: of the article, and of
the sections of the entries around its entry.  It has the heading of its entry if the section has
one heading child, and it names the headings of the entries around if no `strong` child leads in any
of them. -/
theorem outline_agrees_with_searchRecords {d : Document}
    (unmentioned : d.mentionsIndexing = false) :
    (∃ others, d.searchRecords =
      d.articleRecord :: (RecordRule.sections.records d ++ others)) ∧
    (OutlineEntry.anchorsIn d.outline).Sublist
      ((RecordRule.sections.records d).map SearchRecord.id) ∧
    OutlineEntry.trailsIn [.ofElement d.root] d.outline =
      d.listedSections.map OutlineEntry.trailOf ∧
    (d.listedSections.map RecordRule.sections.recordOf).Sublist (RecordRule.sections.records d) ∧
    ∀ s ∈ d.listedSections,
      (∃ sections, s.around = d.root :: sections ∧
        ∀ a ∈ sections, OutlineEntry.isListed a = true) ∧
      (RecordRule.sections.recordOf s).id = (OutlineEntry.ofElement s.element).anchor ∧
      (RecordRule.sections.recordOf s).parents = s.around.filterMap parentLabel? ∧
      (∀ h, s.element.childElements.filter Element.isHeading = [h] →
        (RecordRule.sections.recordOf s).text = (OutlineEntry.ofElement s.element).heading) ∧
      ((∀ a ∈ s.around, a.strongLeads = false) →
        (RecordRule.sections.recordOf s).parents =
          (s.around.map fun a => (OutlineEntry.ofElement a).heading).filter (!·.isEmpty)) := by
  have listed := map_recordOf_listedSections_sublist unmentioned
  refine ⟨?_, ?_, d.map_trailOf_listedSections.symm, listed, ?_⟩
  · have atRoot : indexingFlag? d.root = none :=
      indexingFlag?_of_at? unmentioned (show d.at? [] = some d.root from rfl)
    rw [searchRecords, atRoot, if_neg (by simp)]
    refine ⟨recordRules.tail.flatMap (·.records d) ++ d.paragraphRecords, ?_⟩
    rw [← List.append_assoc]
    rfl
  · have anchors := listed.map SearchRecord.id
    rw [List.map_map] at anchors
    rw [← d.map_anchor_listedSections]
    exact anchors
  · intro s member
    rcases exists_around_of_mem_listedSections member with ⟨-, sections, around, inside⟩
    refine ⟨⟨sections, around, inside⟩, rfl, rfl, fun h only => headingText_of_singleton only, ?_⟩
    intro headed
    apply filterMap_parentLabel?_of_not_strongLeads _ headed
    intro a isAround
    rw [around] at isAround
    rcases List.mem_cons.mp isAround with rfl | nested
    · rfl
    · have isSection := (Bool.and_eq_true_iff.mp (inside a nested)).1
      rw [isSection]
      rfl

/-- A page with a section in a section, and one that only a wrapper holds. -/
def nestedSections : Document where
  children :=
    [.element "section" (Dict.ofList [("id", "a")])
      [.element "h2" Dict.empty [.text "A"],
        .element "section" (Dict.ofList [("id", "b")]) [.element "h3" Dict.empty [.text "B"]],
        .element "div" Dict.empty
          [.element "section" (Dict.ofList [("id", "c")])
            [.element "h3" Dict.empty [.text "C"]]]]]

/-- The section in the wrapper has a record, and no entry. -/
theorem outline_agrees_with_searchRecords_nestedSections :
    OutlineEntry.anchorsIn nestedSections.outline = ["a", "b"] ∧
      (RecordRule.sections.records nestedSections).map SearchRecord.id = ["a", "b", "c"] ∧
      (∃ others, nestedSections.searchRecords =
        nestedSections.articleRecord ::
          (RecordRule.sections.records nestedSections ++ others)) ∧
      (OutlineEntry.anchorsIn nestedSections.outline).Sublist
        ((RecordRule.sections.records nestedSections).map SearchRecord.id) ∧
      ∀ s ∈ nestedSections.listedSections,
        (RecordRule.sections.recordOf s).text = (OutlineEntry.ofElement s.element).heading ∧
          (RecordRule.sections.recordOf s).parents =
            (s.around.map fun a => (OutlineEntry.ofElement a).heading).filter (!·.isEmpty) := by
  have unmentioned : nestedSections.mentionsIndexing = false := by decide
  have simple : ∀ s ∈ nestedSections.listedSections,
      (s.element.childElements.filter Element.isHeading).length = 1 ∧
        ∀ a ∈ s.around, a.strongLeads = false := by
    decide +kernel
  rcases outline_agrees_with_searchRecords unmentioned with
    ⟨records, anchors, -, -, each⟩
  refine ⟨by decide +kernel, by decide +kernel, records, anchors, ?_⟩
  intro s member
  rcases each s member with ⟨-, -, -, text, parents⟩
  rcases List.length_eq_one_iff.mp (simple s member).1 with ⟨h, only⟩
  exact ⟨text h only, parents (simple s member).2⟩

/-- A page with a section that has a `strong` child and no heading. -/
def boldSection : Document where
  children :=
    [.element "section" (Dict.ofList [("id", "a")])
      [.element "strong" Dict.empty [.text "S"],
        .element "section" (Dict.ofList [("id", "b")]) [.element "h3" Dict.empty [.text "B"]]]]

/-- It is not enough that no `strong` child stands before the first heading: in a section without a
heading a `strong` child gives the label. -/
theorem not_forall_parents_eq_headings :
    ¬ ∀ d : Document, d.mentionsIndexing = false → ∀ s ∈ d.listedSections,
      (∀ a ∈ s.around, (a.strongLeads && a.childElements.any Element.isHeading) = false) →
        (RecordRule.sections.recordOf s).parents =
          (s.around.map fun a => (OutlineEntry.ofElement a).heading).filter (!·.isEmpty) := by
  intro claimed
  have named := claimed boldSection (by decide)
  revert named
  decide +kernel

end Document

end Folio
