import Folio.Page.SearchRecord
import Folio.Proofs.Page.AnchorAssignment

namespace Folio

open Markup

/-!
# The places of search records

A search record names its element by an identifier, which the element may lack.  The records of a
page are listed here once more, each with the path of the element that it is made of, so that it can
be said which record an element has, and which records stand below another element.
-/

/-- A search record, with the path of its element. -/
structure PlacedRecord where
  path : TreePath
  record : SearchRecord
  deriving DecidableEq

namespace PlacedRecord

/-- The records that are read at some paths. -/
def readAt (read : TreePath → Option SearchRecord) (paths : List TreePath) : List PlacedRecord :=
  paths.filterMap fun path => (read path).map (mk path)

theorem map_record_readAt (read : TreePath → Option SearchRecord) (paths : List TreePath) :
    (readAt read paths).map record = paths.filterMap read := by
  rw [readAt, List.map_filterMap]
  congr 1
  funext path
  rw [Option.map_map]
  exact Option.map_id'

theorem mem_readAt_iff {read : TreePath → Option SearchRecord} {paths : List TreePath}
    {p : PlacedRecord} : p ∈ readAt read paths ↔ p.path ∈ paths ∧ read p.path = some p.record := by
  rw [readAt, List.mem_filterMap]
  constructor
  · rintro ⟨path, listed, made⟩
    rcases Option.map_eq_some_iff.mp made with ⟨record, isRead, rfl⟩
    exact ⟨listed, isRead⟩
  · rintro ⟨listed, isRead⟩
    exact ⟨p.path, listed, by rw [isRead]; rfl⟩

theorem map_path_readAt (read : TreePath → Option SearchRecord) (paths : List TreePath) :
    (readAt read paths).map path = paths.filter fun q => (read q).isSome := by
  induction paths with
  | nil => rfl
  | cons q paths inductionHypothesis =>
      rw [readAt] at inductionHypothesis
      cases isRead : read q <;> simp [readAt, isRead, inductionHypothesis]

/-- Reading at fewer paths leaves out the records of the others. -/
theorem readAt_filter (read : TreePath → Option SearchRecord) (keep : TreePath → Bool)
    (paths : List TreePath) :
    readAt read (paths.filter keep) = (readAt read paths).filter (keep ·.path) := by
  induction paths with
  | nil => rfl
  | cons path paths inductionHypothesis =>
      rw [readAt, readAt] at inductionHypothesis
      cases kept : keep path <;> cases isRead : read path <;>
        simp [readAt, kept, isRead, inductionHypothesis]

end PlacedRecord

open PlacedRecord

/-- The records of a rule, each with its place. -/
def RecordRule.placedRecords (rule : RecordRule) (d : Document) : List PlacedRecord :=
  readAt (rule.recordAt d) ((d.allPaths rule.applies).filter d.isIndexed)

namespace Document

/-- The records of the running text of a page, each with its place. -/
def placedParagraphs (d : Document) : List PlacedRecord :=
  readAt d.paragraphAt
    (d.fullTextPaths.filter fun path => !d.isCaptionLead path && d.isIndexed path)

/-- The search records of a page, each with its place. -/
def placedRecords (d : Document) : List PlacedRecord :=
  if indexingFlag? d.root = some false then []
  else ⟨[], d.articleRecord⟩ :: (recordRules.flatMap (·.placedRecords d) ++ d.placedParagraphs)

theorem map_record_placedParagraphs (d : Document) :
    d.placedParagraphs.map PlacedRecord.record = d.paragraphRecords :=
  map_record_readAt _ _

theorem map_record_placedRecords (d : Document) :
    d.placedRecords.map PlacedRecord.record = d.searchRecords := by
  rw [placedRecords, searchRecords]
  split
  · rfl
  · rw [List.map_cons, List.map_append, List.map_flatMap, map_record_placedParagraphs]
    congr 3
    funext rule
    exact map_record_readAt _ _

/-- Whether the child at a position is the first element of a caption. -/
def leads (parent : Element) (i : Nat) : Bool :=
  parent.tag == "figcaption" && (parent.child? i).isSome &&
    (parent.children.take i).all fun n => n.element?.isNone

theorem isCaptionLead_concat (d : Document) (front : TreePath) (i : Nat) :
    d.isCaptionLead (front ++ [i]) =
      match d.at? front with
      | none => false
      | some parent => leads parent i := by
  rw [isCaptionLead, List.getLast?_concat, List.dropLast_concat]
  rfl

/-- A record is that of the article, of a rule that applies to its element, or of running text. -/
theorem place_of_mem_placedRecords {d : Document} {p : PlacedRecord}
    (member : p ∈ d.placedRecords) :
    p = ⟨[], d.articleRecord⟩ ∨
      (∃ rule ∈ recordRules, p.path ∈ d.allPaths rule.applies ∧
        rule.recordAt d p.path = some p.record) ∨
      p ∈ d.placedParagraphs := by
  rw [placedRecords] at member
  split at member
  · cases member
  · rcases List.mem_cons.mp member with article | member
    · exact Or.inl article
    · rcases List.mem_append.mp member with ofRule | paragraph
      · rcases List.mem_flatMap.mp ofRule with ⟨rule, isRule, listed⟩
        rcases mem_readAt_iff.mp listed with ⟨place, isRead⟩
        exact Or.inr (Or.inl ⟨rule, isRule, List.mem_of_mem_filter place, isRead⟩)
      · exact Or.inr (Or.inr paragraph)

theorem mem_placedRecords_of_rule {d : Document} (enabled : indexingFlag? d.root ≠ some false)
    {rule : RecordRule} (isRule : rule ∈ recordRules) {p : PlacedRecord}
    (placed : p ∈ rule.placedRecords d) : p ∈ d.placedRecords := by
  rw [placedRecords, if_neg enabled]
  apply List.mem_cons_of_mem
  apply List.mem_append_left
  exact List.mem_flatMap.mpr ⟨rule, isRule, placed⟩

theorem exists_element_of_recordAt {d : Document} {rule : RecordRule} {path : TreePath}
    {record : SearchRecord} (made : rule.recordAt d path = some record) :
    ∃ e, d.at? path = some e ∧ record.id = e.id?.getD "" := by
  rcases Option.map_eq_some_iff.mp made with ⟨e, atPath, rfl⟩
  exact ⟨e, atPath, rfl⟩

theorem exists_element_of_paragraphAt {d : Document} {path : TreePath} {record : SearchRecord}
    (made : d.paragraphAt path = some record) :
    ∃ e, d.at? path = some e ∧ record.id = e.id?.getD "" := by
  rcases Option.map_eq_some_iff.mp made with ⟨e, atPath, rfl⟩
  exact ⟨e, atPath, rfl⟩

/-- A record names the identifier of the element at its place, if that has one. -/
theorem exists_element_of_mem_placedRecords {d : Document} {p : PlacedRecord}
    (member : p ∈ d.placedRecords) : ∃ e, d.at? p.path = some e ∧ p.record.id = e.id?.getD "" := by
  rcases place_of_mem_placedRecords member with rfl | ⟨rule, -, -, isRead⟩ | paragraph
  · exact ⟨d.root, rfl, rfl⟩
  · exact exists_element_of_recordAt isRead
  · exact exists_element_of_paragraphAt (mem_readAt_iff.mp paragraph).2

theorem kind_of_recordAt {d : Document} {rule : RecordRule} {path : TreePath}
    {record : SearchRecord} (made : rule.recordAt d path = some record) :
    record.kind = rule.kind := by
  rcases Option.map_eq_some_iff.mp made with ⟨e, -, rfl⟩
  rfl

/-- The paragraphs among all records are records of running text. -/
theorem filter_paragraph_placedRecords_sublist (d : Document) :
    (d.placedRecords.filter (·.record.kind = .paragraph)).Sublist d.placedParagraphs := by
  have noRule : (recordRules.flatMap (·.placedRecords d)).filter (·.record.kind = .paragraph) =
      [] := by
    rw [List.filter_eq_nil_iff]
    intro p member
    rcases List.mem_flatMap.mp member with ⟨rule, isRule, listed⟩
    rw [kind_of_recordAt (mem_readAt_iff.mp listed).2]
    revert rule
    simp [recordRules]
  rw [placedRecords]
  split
  · exact List.nil_sublist _
  · rw [List.filter_cons_of_neg (by simp [articleRecord]), List.filter_append, noRule,
      List.nil_append]
    exact List.filter_sublist

end Document

end Folio
