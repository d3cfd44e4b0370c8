import Folio.Proofs.Markup.AttributeErasure
import Folio.Proofs.Page.RecordPlace
import Mathlib.Data.List.Infix

namespace Folio

open Markup

/-!
# Switching indexing off

The attribute that switches indexing is read for one purpose only, to decide which elements are
indexed.  Without it a page has the same elements at the same places, with the same records, so a
page on which indexing has been switched off below some element differs from the page as it was in
the choice of records and in nothing else.

The nearest flag on the way to the root decides.  Going one step down, an element has a flag of its
own or takes over what holds around it.  By induction along a path, a new flag at an element
changes what holds at those places that it is the nearest flag for: at the element, and below it as
far as no other flag stands in between.
-/

section Views

variable {name : String}

theorem ignores_headingText : Ignores name headingText := by
  intro e
  have headings : (e.without name).childElements.filter Element.isHeading =
      (e.childElements.filter Element.isHeading).map (Element.without name) := by
    rw [Element.childElements_without, List.filter_map]
    rfl
  have texts : Element.shownText ∘ Element.without name = Element.shownText :=
    funext ignores_shownText
  rw [headingText, headingText, headings, List.map_map, texts]

theorem ignores_calloutText : Ignores name calloutText := by
  intro e
  have texts : Element.normalText ∘ Element.without name = Element.normalText :=
    funext ignores_normalText
  rw [calloutText, calloutText, Element.findBelow?_without (ignores_isTag "strong"),
    Option.map_map, texts]

theorem ignores_isSome_findBelow? {p : Element → Bool} (ignores : Ignores name p) :
    Ignores name fun e => (e.findBelow? p).isSome := by
  intro e
  change ((e.without name).findBelow? p).isSome = (e.findBelow? p).isSome
  rw [Element.findBelow?_without ignores, Option.isSome_map]

theorem ignores_figureClass : Ignores name figureClass := by
  intro e
  have isPicture : Ignores name fun c => c.tag == "img" || c.tag == "picture" := fun _ => rfl
  have isCode : Ignores name fun c => c.tag == "pre" := ignores_isTag "pre"
  have images := ignores_isSome_findBelow? isPicture e
  have code := ignores_isSome_findBelow? isCode e
  simp only [figureClass, images, code]

theorem ignores_figureCaption : Ignores name figureCaption := by
  intro e
  rw [figureCaption, figureCaption, Element.findBelow?_without (ignores_isTag "figcaption")]
  cases e.findBelow? fun e => e.tag == "figcaption" with
  | none => rfl
  | some caption =>
      rw [Option.map_some]
      simp only [Element.childElements_without, List.head?_map]
      cases caption.childElements.head? with
      | none => exact ignores_normalText caption
      | some lead => exact ignores_normalText lead

theorem ignores_parentLabel? (different : "class" ≠ name) : Ignores name parentLabel? := by
  intro e
  have sameTag : (e.without name).tag = e.tag := rfl
  have sameTest : Ignores name fun c => c.isHeading || c.tag == "strong" := fun _ => rfl
  have texts : Element.normalText ∘ Element.without name = Element.normalText :=
    funext ignores_normalText
  rw [parentLabel?, parentLabel?, sameTag, ignores_isCallout different e,
    Element.findChild?_without sameTest, Option.map_map, texts]

end Views

namespace Document

variable {name : String}

theorem parentsAt_without (different : "class" ≠ name) (d : Document) (path : TreePath) :
    (d.without name).parentsAt path = d.parentsAt path := by
  have labels : parentLabel? ∘ Element.without name = parentLabel? :=
    funext (ignores_parentLabel? different)
  rw [parentsAt, parentsAt, ancestors_without, List.filterMap_map, labels]

theorem captionAround_without (d : Document) (path : TreePath) :
    (d.without name).captionAround path = d.captionAround path := by
  have sameTest : (fun e : Element => e.tag == "figure") ∘ Element.without name =
      fun e => e.tag == "figure" := rfl
  have captions : figureCaption ∘ Element.without name = figureCaption :=
    funext ignores_figureCaption
  rw [captionAround, captionAround, ancestors_without, ← List.map_reverse, List.find?_map,
    sameTest, Option.map_map, captions]

theorem isCaptionLead_without (d : Document) (path : TreePath) :
    (d.without name).isCaptionLead path = d.isCaptionLead path := by
  have leads (parent : Element) (i : Nat) :
      (((parent.without name).children.take i).all fun n => n.element?.isNone) =
        (parent.children.take i).all fun n => n.element?.isNone := by
    rw [Element.without, Node.withoutIn_eq_map, ← List.map_take, List.all_map]
    congr 1
    funext n
    rw [Function.comp_apply, Node.element?_without, Option.isNone_map]
  rw [isCaptionLead, isCaptionLead]
  cases path.getLast? with
  | none => rfl
  | some i =>
      simp only [at?_without]
      cases d.at? path.dropLast with
      | none => rfl
      | some parent =>
          have sameTag : (parent.without name).tag = parent.tag := rfl
          simp only [Option.map_some, leads, sameTag, Element.child?_without, Option.isSome_map]

theorem fullTextPaths_without (d : Document) :
    (d.without name).fullTextPaths = d.fullTextPaths := by
  have samePaths : ∀ tag : String, (d.without name).pathsOutsideCode (fun e => e.tag == tag) =
      d.pathsOutsideCode fun e => e.tag == tag :=
    fun tag => d.pathsOutsideCode_without (ignores_isTag tag)
  simp only [fullTextPaths, samePaths]

theorem paragraphAt_without (notClass : "class" ≠ name) (notId : "id" ≠ name) (d : Document)
    (path : TreePath) : (d.without name).paragraphAt path = d.paragraphAt path := by
  have record (e : Element) :
      ({ text := (e.without name).normalText
         kind := .paragraph
         id := (e.without name).id?.getD ""
         parents := d.parentsAt path ++ d.captionAround path
         classes := joinClasses ((e.without name).attr? "class").toList } : SearchRecord) =
      { text := e.normalText
        kind := .paragraph
        id := e.id?.getD ""
        parents := d.parentsAt path ++ d.captionAround path
        classes := joinClasses (e.attr? "class").toList } := by
    rw [ignores_normalText e, ignores_id? notId e, Element.attr?_without notClass e]
  rw [paragraphAt, paragraphAt, at?_without, parentsAt_without notClass, captionAround_without,
    Option.map_map]
  congr 1
  exact funext record

theorem articleRecord_without (notClass : "class" ≠ name) (notId : "id" ≠ name) (d : Document) :
    (d.without name).articleRecord = d.articleRecord := by
  have root : (d.without name).root = d.root.without name := rfl
  rw [articleRecord, articleRecord, root, ignores_headingText d.root, ignores_id? notId d.root,
    d.root.attr?_without notClass]

end Document

/-- What a rule applies to, marks and shows is the same without the attribute that switches
indexing. -/
theorem RecordRule.ignores_of_mem {rule : RecordRule} (isRule : rule ∈ recordRules) :
    Ignores indexingAttr rule.applies ∧ Ignores indexingAttr rule.mark ∧
      Ignores indexingAttr rule.text := by
  have named (tag : String) : Ignores indexingAttr fun e => e.tag == tag && e.id?.isSome := by
    intro e
    have sameId : (e.without indexingAttr).id? = e.id? := ignores_id? (by decide) e
    exact congrArg (fun id : Option String => e.tag == tag && id.isSome) sameId
  simp only [recordRules, List.mem_cons, List.not_mem_nil, or_false] at isRule
  rcases isRule with rfl | rfl | rfl | rfl
  · exact ⟨named "section", fun _ => rfl, ignores_headingText⟩
  · exact ⟨named "code", fun _ => rfl, ignores_normalText⟩
  · exact ⟨named "figure", ignores_figureClass.comp ([·]), ignores_figureCaption⟩
  · exact ⟨ignores_isCallout (by decide), fun _ => rfl, ignores_calloutText⟩

theorem RecordRule.recordAt_without {rule : RecordRule} (isRule : rule ∈ recordRules)
    (d : Document) (path : TreePath) :
    rule.recordAt (d.without indexingAttr) path = rule.recordAt d path := by
  rcases RecordRule.ignores_of_mem isRule with ⟨-, mark, text⟩
  rw [recordAt, recordAt, Document.at?_without, Document.parentsAt_without (by decide),
    Option.map_map]
  congr 1
  funext e
  have sameId : (e.without indexingAttr).id? = e.id? := ignores_id? (by decide) e
  have sameClass : (e.without indexingAttr).attr? "class" = e.attr? "class" :=
    e.attr?_without (by decide)
  simp only [Function.comp_apply, text e, mark e, sameId, sameClass]

namespace Document

/-- The choice about indexing that the element at a path makes, if it makes one. -/
def flagAt? (d : Document) (path : TreePath) : Option Bool := (d.at? path).bind indexingFlag?

/-- The root is indexed unless it says otherwise. -/
theorem isIndexed_nil (d : Document) : d.isIndexed [] = (indexingFlag? d.root).getD true := by
  change ([d.root].findSome? indexingFlag?).getD true = _
  cases flagged : indexingFlag? d.root <;> simp [flagged]

/-- One step down, an element has a flag of its own or takes over what holds around it. -/
theorem isIndexed_concat (d : Document) (path : TreePath) (i : Nat) :
    d.isIndexed (path ++ [i]) = (d.flagAt? (path ++ [i])).getD (d.isIndexed path) := by
  have around : d.ancestors (path ++ [i]) = d.ancestors path ++ (d.at? path).toList :=
    Element.ancestors_concat d.root path i
  rw [isIndexed, isIndexed, flagAt?, around, List.reverse_append, List.findSome?_append]
  have reversed : (d.at? path).toList.reverse = (d.at? path).toList := by
    cases d.at? path <;> rfl
  rw [reversed]
  cases d.at? (path ++ [i]) with
  | none => simp
  | some e => cases flagged : indexingFlag? e <;> simp [flagged]

/-- Whether what holds at a place is decided at the element at `path`, by the flag that this has or
may be given: the place is there or below, and no element in between, nor the one at the place
itself, has a flag of its own. -/
def Inherits (d : Document) (path place : TreePath) : Prop :=
  path <+: place ∧
    ∀ front, path <+: front → front <+: place → front ≠ path → d.flagAt? front = none

instance (d : Document) (path place : TreePath) : Decidable (d.Inherits path place) :=
  decidable_of_iff
    (path <+: place ∧
      ∀ front ∈ place.inits, path <+: front → front ≠ path → d.flagAt? front = none) <| by
    simp only [Inherits, List.mem_inits]
    exact and_congr_right fun _ =>
      forall_congr' fun _ => ⟨fun h a b => h b a, fun h a b => h b a⟩

theorem inherits_self (d : Document) (path : TreePath) : d.Inherits path path := by
  refine ⟨List.prefix_refl path, ?_⟩
  intro front above below different
  exact absurd (below.eq_of_length (Nat.le_antisymm below.length_le above.length_le)) different

/-- An element without a flag inherits if the element around it does. -/
theorem inherits_concat_iff {d : Document} {path place : TreePath} {i : Nat}
    (different : place ++ [i] ≠ path) :
    d.Inherits path (place ++ [i]) ↔
      d.flagAt? (place ++ [i]) = none ∧ d.Inherits path place := by
  constructor
  · rintro ⟨isFront, unflagged⟩
    have inner : path <+: place :=
      (List.prefix_concat_iff.mp isFront).resolve_left fun same => different same.symm
    refine ⟨unflagged _ isFront (List.prefix_refl _) different, inner, ?_⟩
    intro front above below proper
    exact unflagged front above (below.trans (List.prefix_append place [i])) proper
  · rintro ⟨unflaggedHere, inner, unflagged⟩
    refine ⟨inner.trans (List.prefix_append place [i]), ?_⟩
    intro front above below proper
    rcases List.prefix_concat_iff.mp below with rfl | below
    · exact unflaggedHere
    · exact unflagged front above below proper

/-! ## Switching off -/

/-- A page on which indexing is switched off at an element. -/
def switchOff (d : Document) (path : TreePath) : Document :=
  d.modifyAt path (·.setAttr indexingAttr "disabled")

theorem flagAt?_switchOff_self {d : Document} {path : TreePath} {e : Element} (below : path ≠ [])
    (atPath : d.at? path = some e) : (d.switchOff path).flagAt? path = some false := by
  have disabled : (e.setAttr indexingAttr "disabled").attr? indexingAttr = some "disabled" :=
    Table.get?_insert_self e.attrs indexingAttr "disabled"
  have trimmed : Text.trim "disabled" = "disabled" := by decide +kernel
  rw [flagAt?, switchOff, at?_modifyAt_self d below, atPath, Option.map_some, Option.bind_some,
    indexingFlag?, disabled, Option.map_some, trimmed]
  rfl

theorem flagAt?_switchOff_of_ne {d : Document} {path other : TreePath} (below : path ≠ [])
    (different : other ≠ path) : (d.switchOff path).flagAt? other = d.flagAt? other := by
  have labels : (d.switchOff path).labelAt? other = d.labelAt? other :=
    d.labelAt?_modifyAt_of_ne below different fun _ => rfl
  have flags := map_at?_of_labelAt?_eq (fun tag attrs => indexingFlag? ⟨tag, attrs, []⟩) labels
  have read (d : Document) : d.flagAt? other =
      ((d.at? other).map fun e => indexingFlag? ⟨e.tag, e.attrs, []⟩).join := by
    rw [flagAt?]
    cases d.at? other <;> rfl
  rw [read, read, flags]

/-- Switching indexing off at an element switches it off at those places, and at no others, that
inherit from the element. -/
theorem isIndexed_switchOff {d : Document} {path : TreePath} {e : Element} (below : path ≠ [])
    (atPath : d.at? path = some e) (place : TreePath) :
    (d.switchOff path).isIndexed place =
      (d.isIndexed place && !decide (d.Inherits path place)) := by
  induction place using List.reverseRecOn with
  | nil =>
      have apart : ¬ d.Inherits path [] := fun inherits => below (List.prefix_nil.mp inherits.1)
      have sameFlag := flagAt?_switchOff_of_ne (d := d) below (Ne.symm below)
      have rootFlag : indexingFlag? (d.switchOff path).root = indexingFlag? d.root := sameFlag
      rw [isIndexed_nil, isIndexed_nil, rootFlag]
      simp [apart]
  | append_singleton place i inductionHypothesis =>
      rw [isIndexed_concat, isIndexed_concat]
      by_cases here : place ++ [i] = path
      · have inherits : d.Inherits path (place ++ [i]) := here.symm ▸ d.inherits_self path
        rw [here, flagAt?_switchOff_self below atPath]
        rw [here] at inherits
        simp [inherits]
      · rw [flagAt?_switchOff_of_ne below here, inductionHypothesis]
        simp only [inherits_concat_iff here]
        cases d.flagAt? (place ++ [i]) <;> simp

/-- A view of pages that does not read the attribute is the same after switching off. -/
theorem view_switchOff {α : Type} (view : Document → α)
    (ignores : ∀ d : Document, view (d.without indexingAttr) = view d) (d : Document)
    {path : TreePath} (below : path ≠ []) : view (d.switchOff path) = view d := by
  have alike : (d.switchOff path).without indexingAttr = d.without indexingAttr :=
    d.without_setAttr below indexingAttr "disabled"
  rw [← ignores (d.switchOff path), alike, ignores d]

/-- Switching off takes from a list of places those that inherit, and from their records too. -/
theorem readAt_filter_isIndexed_switchOff {d : Document} {path : TreePath} {e : Element}
    (below : path ≠ []) (atPath : d.at? path = some e) (read : TreePath → Option SearchRecord)
    (places : List TreePath) :
    PlacedRecord.readAt read (places.filter (d.switchOff path).isIndexed) =
      (PlacedRecord.readAt read (places.filter d.isIndexed)).filter
        fun p => !decide (d.Inherits path p.path) := by
  have split : (d.switchOff path).isIndexed =
      fun place => !decide (d.Inherits path place) && d.isIndexed place := by
    funext place
    rw [isIndexed_switchOff below atPath, Bool.and_comm]
  rw [split, ← List.filter_filter, PlacedRecord.readAt_filter]

theorem placedRecords_rule_switchOff {d : Document} {path : TreePath} {e : Element}
    (below : path ≠ []) (atPath : d.at? path = some e) {rule : RecordRule}
    (isRule : rule ∈ recordRules) :
    rule.placedRecords (d.switchOff path) =
      (rule.placedRecords d).filter fun p => !decide (d.Inherits path p.path) := by
  have applies := (RecordRule.ignores_of_mem isRule).1
  have samePlaces : (d.switchOff path).allPaths rule.applies = d.allPaths rule.applies :=
    view_switchOff (·.allPaths rule.applies) (allPaths_without applies) d below
  have sameRecords : rule.recordAt (d.switchOff path) = rule.recordAt d :=
    view_switchOff rule.recordAt (fun d => funext (RecordRule.recordAt_without isRule d)) d below
  rw [RecordRule.placedRecords, RecordRule.placedRecords, samePlaces, sameRecords,
    readAt_filter_isIndexed_switchOff below atPath]

theorem placedParagraphs_switchOff {d : Document} {path : TreePath} {e : Element}
    (below : path ≠ []) (atPath : d.at? path = some e) :
    (d.switchOff path).placedParagraphs =
      d.placedParagraphs.filter fun p => !decide (d.Inherits path p.path) := by
  have samePlaces : (d.switchOff path).fullTextPaths = d.fullTextPaths :=
    view_switchOff fullTextPaths fullTextPaths_without d below
  have sameLeads : (d.switchOff path).isCaptionLead = d.isCaptionLead :=
    view_switchOff isCaptionLead (fun d => funext d.isCaptionLead_without) d below
  have sameRecords : (d.switchOff path).paragraphAt = d.paragraphAt :=
    view_switchOff paragraphAt
      (fun d => funext (paragraphAt_without (by decide) (by decide) d)) d below
  have chosen (indexed : TreePath → Bool) :
      (d.fullTextPaths.filter fun place => !d.isCaptionLead place && indexed place) =
        (d.fullTextPaths.filter fun place => !d.isCaptionLead place).filter indexed := by
    rw [List.filter_filter]
    congr 1
    funext place
    exact Bool.and_comm _ _
  rw [placedParagraphs, placedParagraphs, samePlaces, sameLeads, sameRecords, chosen, chosen,
    readAt_filter_isIndexed_switchOff below atPath]

/-- Switching indexing off at an element below the article takes from the search records exactly
those whose elements inherit from it: the element itself, and what stands below it with no flag in
between.  All other records stay as they are, and in order. -/
theorem searchRecords_switchOff {d : Document} {path : TreePath} {e : Element}
    (enabled : indexingFlag? d.root ≠ some false) (below : path ≠ [])
    (atPath : d.at? path = some e) :
    d.placedRecords.map PlacedRecord.record = d.searchRecords ∧
      (d.switchOff path).placedRecords =
        d.placedRecords.filter (fun p => !decide (d.Inherits path p.path)) ∧
      (d.switchOff path).searchRecords =
        (d.placedRecords.filter fun p => !decide (d.Inherits path p.path)).map
          PlacedRecord.record := by
  have rootFlag : indexingFlag? (d.switchOff path).root = indexingFlag? d.root :=
    flagAt?_switchOff_of_ne (d := d) below (Ne.symm below)
  have sameArticle : (d.switchOff path).articleRecord = d.articleRecord :=
    view_switchOff articleRecord (articleRecord_without (by decide) (by decide)) d below
  have apart : ¬ d.Inherits path [] := fun inherits => below (List.prefix_nil.mp inherits.1)
  have placed : (d.switchOff path).placedRecords =
      d.placedRecords.filter fun p => !decide (d.Inherits path p.path) := by
    have rules : recordRules.flatMap (·.placedRecords (d.switchOff path)) =
        (recordRules.flatMap (·.placedRecords d)).filter
          fun p => !decide (d.Inherits path p.path) := by
      rw [List.filter_flatMap]
      exact List.flatMap_congr fun rule isRule => placedRecords_rule_switchOff below atPath isRule
    rw [placedRecords, placedRecords, rootFlag, if_neg enabled, if_neg enabled, sameArticle, rules,
      placedParagraphs_switchOff below atPath, List.filter_cons_of_pos (by simp [apart]),
      List.filter_append]
  refine ⟨d.map_record_placedRecords, placed, ?_⟩
  rw [← placed, map_record_placedRecords]

/-- A page with a block in which a smaller one switches indexing on, and with flags that say
nothing. -/
def flaggedBlocks : Document where
  children :=
    [.element "div" (Dict.ofList [(indexingAttr, "maybe")])
      [.element "p" Dict.empty [.text "one"],
        .element "div" (Dict.ofList [(indexingAttr, " enabled ")])
          [.element "p" Dict.empty [.text "two"]],
        .element "p" (Dict.ofList [(indexingAttr, "")]) [.text "three"]],
      .element "p" Dict.empty [.text "four"]]

/-- Switching the outer block off takes two paragraphs away; the inner block keeps its own. -/
theorem searchRecords_switchOff_flaggedBlocks :
    indexingFlag? flaggedBlocks.root ≠ some false ∧ (flaggedBlocks.at? [0]).isSome ∧
      (flaggedBlocks.searchRecords.map SearchRecord.text) = ["", "one", "two", "three", "four"] ∧
      ((flaggedBlocks.switchOff [0]).searchRecords.map SearchRecord.text) = ["", "two", "four"] ∧
      (flaggedBlocks.switchOff [0]).searchRecords =
        (flaggedBlocks.placedRecords.filter fun p =>
          !decide (flaggedBlocks.Inherits [0] p.path)).map PlacedRecord.record := by
  have enabled : indexingFlag? flaggedBlocks.root ≠ some false := by decide +kernel
  have there : (flaggedBlocks.at? [0]).isSome := by decide +kernel
  rcases Option.isSome_iff_exists.mp there with ⟨e, atPath⟩
  exact ⟨enabled, there, by decide +kernel, by decide +kernel,
    (searchRecords_switchOff enabled (by decide) atPath).2.2⟩

end Document

end Folio
