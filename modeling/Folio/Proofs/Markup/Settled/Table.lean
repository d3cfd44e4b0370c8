import Folio.Markup.Construction.Table
import Folio.Proofs.Markup.Settled.Body

namespace Folio
namespace Markup
namespace Construction

open Std.Do

set_option mvcgen.warning false

/-!
# Tables between text elements

The rules for tables and templates keep construction settled like those of the body, which they fall
back on.  The text that is read in a table is placed later; that opens no element.
-/

/-- What pages, sets of frames, tables and forms are made of are no text elements. -/
@[grind →]
theorem ne_of_mem_textTags {name : String} (element : name ∈ textTags) :
    name ≠ "html" ∧ name ≠ "head" ∧ name ≠ "body" ∧ name ≠ "frameset" ∧ name ≠ "frame" ∧
      name ≠ "caption" ∧ name ≠ "colgroup" ∧ name ≠ "col" ∧ name ≠ "tbody" ∧ name ≠ "tfoot" ∧
      name ≠ "thead" ∧ name ≠ "tr" ∧ name ≠ "td" ∧ name ≠ "th" ∧ name ≠ "form" ∧
      name ≠ "input" := by
  revert name
  decide

@[grind .]
theorem templatePart_ne_inText (name : String) : templatePart name ≠ .inText := by
  rw [templatePart]
  repeat' apply ite_ne_inText
  all_goals exact Mode.noConfusion

variable [Arena.FollowedTexts]

@[spec]
theorem settles_clearToTable : Settles clearToTable := settles_closeDownTo _

@[spec]
theorem settles_clearToGroup : Settles clearToGroup := settles_closeDownTo _

@[spec]
theorem settles_clearToRow : Settles clearToRow := settles_closeDownTo _

@[grind .]
theorem IsSettled.foster {c : Construction} (settled : c.IsSettled) (fostering : Bool) :
    { c with fostering }.IsSettled := { settled with }

@[grind .]
theorem Leads.endFostering {token : Token} {r : Outcome} {c : Construction}
    (leads : Leads token r c) : Leads token r { c with fostering := false } := by
  rcases leads with settled | ⟨isStart, done, ⟨tag, id, reading⟩ | settled⟩
  · exact Or.inl { settled with }
  · exact Or.inr ⟨isStart, done, Or.inl ⟨tag, id, { reading with }⟩⟩
  · exact Or.inr ⟨isStart, done, Or.inr { settled with }⟩

@[spec]
theorem inFrontOfTable_spec (token : Token) :
    ⦃fun c => ⌜c.IsSettled⌝⦄ inFrontOfTable token ⦃⇓ r c => ⌜Leads token r c⌝⦄ := by
  mvcgen [inFrontOfTable] with grind

@[spec]
theorem settles_endTable (r : Outcome) : Settles (endTable r) := by
  mvcgen [endTable]

/-- The text in a table is collected before it is placed. -/
@[grind .]
theorem IsSettled.collect {c : Construction} (settled : c.IsSettled) :
    { c with pending := [], savedMode := c.mode, mode := .inTableText }.IsSettled :=
  { settled with
    pending := fun _ member => by cases member
    savedMode := settled.mode
    mode := Mode.noConfusion }

@[spec]
theorem inTable_spec (token : Token) :
    ⦃fun c => ⌜c.IsSettled⌝⦄ inTable token ⦃⇓ r c => ⌜Leads token r c⌝⦄ := by
  mvcgen [inTable] with grind

/-- A run of text put in front of the table opens no text element. -/
theorem settles_inFrontOfTable {run : Token} (isRun : run.isRun = true) :
    Settles (do let _ ← inFrontOfTable run) := by
  mvcgen
  exact Leads.isSettled_of_isRun ‹_› isRun

/-- Once the text of a table is placed, the part is the one that the text was found in. -/
theorem IsSettled.endCollecting {c : Construction} (settled : c.IsSettled) :
    { c with pending := [], mode := c.savedMode }.IsSettled :=
  { settled with
    pending := fun _ member => by cases member
    mode := settled.savedMode }

theorem settles_placePending : Settles placePending := by
  apply triple_of_run
  intro c settled
  rw [placePending]
  simp only [StateT.run_bind, StateT.run_get, pure_bind]
  refine IsSettled.endCollecting (run_of_triple (settles_forM ?_) settled)
  intro run member
  have isRun := settled.pending run (List.mem_reverse.mp member)
  cases run with
  | blank text =>
      dsimp only
      split
      · exact settles_insertText text
      · exact settles_inFrontOfTable isRun
  | chars text => exact settles_inFrontOfTable isRun
  | null => exact settles_inFrontOfTable isRun
  | _ => cases isRun

@[grind .]
theorem IsSettled.collectRun {c : Construction} (settled : c.IsSettled) {run : Token}
    (isRun : run.isRun = true) : { c with pending := run :: c.pending }.IsSettled :=
  { settled with pending := List.forall_mem_cons.mpr ⟨isRun, settled.pending⟩ }

@[spec]
theorem inTableText_spec (token : Token) :
    ⦃fun c => ⌜c.IsSettled⌝⦄ inTableText token ⦃⇓ r c => ⌜Leads token r c⌝⦄ := by
  mvcgen [inTableText, settles_placePending] with grind [Token.isRun]

@[spec]
theorem settles_endCaption (r : Outcome) : Settles (endCaption r) := by
  mvcgen [endCaption]

@[spec]
theorem inCaption_spec (token : Token) :
    ⦃fun c => ⌜c.IsSettled⌝⦄ inCaption token ⦃⇓ r c => ⌜Leads token r c⌝⦄ := by
  mvcgen [inCaption] with grind

@[spec]
theorem settles_endColumnGroup (r : Outcome) : Settles (endColumnGroup r) := by
  mvcgen [endColumnGroup]

@[spec]
theorem inColumnGroup_spec (token : Token) :
    ⦃fun c => ⌜c.IsSettled⌝⦄ inColumnGroup token ⦃⇓ r c => ⌜Leads token r c⌝⦄ := by
  mvcgen [inColumnGroup] with grind

@[spec]
theorem settles_leaveGroup : Settles leaveGroup := by
  mvcgen [leaveGroup]

@[spec]
theorem inTableBody_spec (token : Token) :
    ⦃fun c => ⌜c.IsSettled⌝⦄ inTableBody token ⦃⇓ r c => ⌜Leads token r c⌝⦄ := by
  mvcgen [inTableBody] with grind

@[spec]
theorem settles_leaveRow (r : Outcome) : Settles (leaveRow r) := by
  mvcgen [leaveRow]

@[spec]
theorem inRow_spec (token : Token) :
    ⦃fun c => ⌜c.IsSettled⌝⦄ inRow token ⦃⇓ r c => ⌜Leads token r c⌝⦄ := by
  mvcgen [inRow] with grind

@[spec]
theorem settles_closeCell : Settles closeCell := by
  mvcgen [closeCell] with grind

@[spec]
theorem inCell_spec (token : Token) :
    ⦃fun c => ⌜c.IsSettled⌝⦄ inCell token ⦃⇓ r c => ⌜Leads token r c⌝⦄ := by
  mvcgen [inCell] with grind

@[spec]
theorem inTemplate_spec (token : Token) :
    ⦃fun c => ⌜c.IsSettled⌝⦄ inTemplate token ⦃⇓ r c => ⌜Leads token r c⌝⦄ := by
  mvcgen [inTemplate] with grind

end Construction
end Markup
end Folio
