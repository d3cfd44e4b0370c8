import Folio.Proofs.Page.OutlineRecord
import Folio.Proofs.Page.RecordPlace
import Folio.Proofs.Text.Word

namespace Folio

open Markup

/-!
# The words of headings in records

The records of the article and of sections show the headings that stand directly in these, put
together without anything between them; white space of the page that stands between two headings
belongs to neither.  The words of a record are therefore those of the headings exactly if no two of
the headings meet letter to letter.  That is so in particular if there is one heading, or if only
one of them has a text.
-/

namespace Markup.Element

/-- The texts of the headings that stand directly in an element, in document order. -/
def headingTexts (e : Element) : List String :=
  (e.childElements.filter isHeading).map shownText

theorem toList_join_headingTexts (e : Element) :
    (String.join e.headingTexts).toList = (e.headingTexts.map String.toList).flatten := by
  rw [String.toList_join, List.flatMap_def]

end Markup.Element

/-- A text that shows the headings of an element has their words if no two of them meet letter to
letter, and only then. -/
theorem words_headingText_eq_iff (e : Element) :
    Text.words (headingText e) = e.headingTexts.flatMap Text.words ↔
      Text.AreParted (e.headingTexts.map String.toList) := by
  have shown : Text.words (headingText e) = Text.words (String.join e.headingTexts) :=
    Text.words_normalize _
  have apart : e.headingTexts.flatMap Text.words =
      ((e.headingTexts.map String.toList).flatMap Text.wordList).map String.ofList := by
    rw [List.flatMap_map, List.map_flatMap]
    rfl
  have injective : Function.Injective String.ofList := fun _ _ => String.ofList_injective
  rw [shown, apart, Text.words, e.toList_join_headingTexts, injective.list_map.eq_iff,
    Text.wordList_flatten_eq_iff]

namespace Document

/-- The records of a page that leaves indexing on begin with that of the article and those of the
sections.  The words of each are the words of the headings of its element, heading after heading,
exactly if no two of these meet letter to letter. -/
theorem headingRecords_words_iff (d : Document) :
    d.placedRecords.map PlacedRecord.record = d.searchRecords ∧
      (indexingFlag? d.root ≠ some false → ∃ others, d.placedRecords =
        ⟨[], d.articleRecord⟩ :: (RecordRule.sections.placedRecords d ++ others)) ∧
      ∀ p, p = ⟨[], d.articleRecord⟩ ∨ p ∈ RecordRule.sections.placedRecords d →
        ∃ e, d.at? p.path = some e ∧
          (Text.words p.record.text = e.headingTexts.flatMap Text.words ↔
            Text.AreParted (e.headingTexts.map String.toList)) := by
  refine ⟨d.map_record_placedRecords, ?_, ?_⟩
  · intro enabled
    rw [placedRecords, if_neg enabled]
    exact ⟨recordRules.tail.flatMap (·.placedRecords d) ++ d.placedParagraphs, by
      rw [← List.append_assoc]; rfl⟩
  · rintro p (rfl | ofSection)
    · exact ⟨d.root, rfl, words_headingText_eq_iff d.root⟩
    · rcases Option.map_eq_some_iff.mp (PlacedRecord.mem_readAt_iff.mp ofSection).2 with
        ⟨e, atPath, made⟩
      refine ⟨e, atPath, ?_⟩
      rw [← made]
      exact words_headingText_eq_iff e

/-- A page with two headings on lines of their own. -/
def headingLines : Document where
  children :=
    [.element "h1" Dict.empty [.text "Getting started"], .text "\n",
      .element "h2" Dict.empty [.text "Install"]]

/-- The last word of one heading and the first of the next become one. -/
theorem not_forall_words_articleRecord :
    ¬ ∀ d : Document,
      Text.words d.articleRecord.text = d.root.headingTexts.flatMap Text.words := by
  intro kept
  have words := kept headingLines
  revert words
  decide +kernel

end Document

end Folio
