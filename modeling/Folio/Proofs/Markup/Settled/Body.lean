import Folio.Markup.Construction.Body
import Folio.Proofs.Markup.Settled.Adoption

namespace Folio
namespace Markup
namespace Construction

open Std.Do

set_option mvcgen.warning false

/-!
# The rules between text elements

Each rule that looks at a token while construction is settled keeps it so, with two exceptions.  The
start tag of a text element leads into the element, and a few start tags have the line feed dropped
that comes next.
-/

/-- The elements of the head are text elements but for those that hold nothing, and templates. -/
theorem headTag_mem_textTags_iff {name : String}
    (inHead : headTags.contains name ∨ name = "noscript") :
    (name ∈ textTags ↔
      ¬ ["base", "basefont", "bgsound", "link", "meta"].contains name ∧ name ≠ "template") ∧
      name ≠ "textarea" := by
  have listed : name ∈ headTags ++ ["noscript"] := by
    rcases inHead with inHead | rfl
    · exact List.mem_append_left _ (List.contains_iff_mem.mp inHead)
    · exact List.mem_append_right _ List.mem_cons_self
  exact (by decide : ∀ n ∈ headTags ++ ["noscript"],
    (n ∈ textTags ↔
      ¬ ["base", "basefont", "bgsound", "link", "meta"].contains n ∧ n ≠ "template") ∧
      n ≠ "textarea") name listed

/-- A tag that is read as another is no text element either. -/
theorem retag_not_mem_textTags {tag : Tag} (plain : tag.name ∉ textTags) :
    (if tag.name = "image" then { tag with name := "img" } else tag).name ∉ textTags := by
  split
  · exact (by decide : "img" ∉ textTags)
  · exact plain

theorem ite_ne_inText {p : Prop} [Decidable p] {mode other : Mode} (first : mode ≠ .inText)
    (second : other ≠ .inText) : (if p then mode else other) ≠ .inText := by
  split
  · exact first
  · exact second

variable [Arena.FollowedTexts]

/-- Whether construction is settled but for a line feed that it may drop. -/
abbrev IsAtRest (c : Construction) : Prop := { c with dropLineFeed := false }.IsSettled

/-- Where a start tag may lead: into a text element, or to a line feed that is dropped. -/
def HasStarted (c : Construction) : Prop := (∃ tag, c.HasOpened tag) ∨ c.IsAtRest

theorem IsSettled.isAtRest {c : Construction} (settled : c.IsSettled) : c.IsAtRest :=
  { settled with lineFeed := rfl }

/-- What holds of construction after a rule has looked at a token. -/
def Leads (token : Token) (r : Outcome) (c : Construction) : Prop :=
  c.IsSettled ∨ ((∃ tag, token = .startTag tag) ∧ r = .done ∧ c.HasStarted)

theorem Leads.isSettled_of_isRun {token : Token} {r : Outcome} {c : Construction}
    (leads : Leads token r c) (isRun : token.isRun = true) : c.IsSettled := by
  rcases leads with settled | ⟨⟨tag, rfl⟩, -⟩
  · exact settled
  · cases isRun

@[grind .]
theorem IsSettled.leads {c : Construction} (settled : c.IsSettled) (token : Token) (r : Outcome) :
    Leads token r c := Or.inl settled

@[grind .]
theorem HasOpened.leads {c : Construction} {tag : Tag} (opened : c.HasOpened tag) :
    Leads (.startTag tag) .done c := Or.inr ⟨⟨tag, rfl⟩, rfl, Or.inl ⟨tag, opened⟩⟩

/-- The part that follows from the open elements is no text. -/
theorem modeOfStack_ne_inText {c : Construction} (settled : c.IsSettled) (stack : List Nat) :
    c.modeOfStack stack ≠ .inText := by
  have template : c.templateModes.head?.getD .inBody ≠ .inText := by
    cases found : c.templateModes.head? with
    | none => exact Mode.noConfusion
    | some mode =>
        rintro rfl
        exact settled.templateModes (List.mem_of_head? found)
  induction stack with
  | nil => exact Mode.noConfusion
  | cons id stack inductionHypothesis =>
      rw [modeOfStack]
      split
      · repeat' apply ite_ne_inText
        all_goals first | assumption | exact Mode.noConfusion
      · exact inductionHypothesis

@[spec]
theorem settles_resetMode : Settles resetMode :=
  settles_modify fun c settled => { settled with mode := modeOfStack_ne_inText settled c.stack }

@[spec]
theorem settles_setTemplateMode {mode : Mode} (other : mode ≠ .inText) :
    Settles (setTemplateMode mode) :=
  settles_modify fun _ settled => { settled with
    templateModes := fun member => by
      rcases List.mem_cons.mp member with same | member
      · exact other same.symm
      · exact settled.templateModes (List.mem_of_mem_drop member) }

@[spec]
theorem settles_rootAgain (tag : Tag) : Settles (rootAgain tag) := by
  mvcgen [rootAgain]

@[grind .]
theorem IsSettled.leaveTemplate {c : Construction} (settled : c.IsSettled) :
    { c with templateModes := c.templateModes.drop 1 }.IsSettled :=
  { settled with
    templateModes := fun member => settled.templateModes (List.mem_of_mem_drop member) }

@[grind .]
theorem IsSettled.enterTemplate {c : Construction} (settled : c.IsSettled) :
    { c with mode := .inTemplate, templateModes := .inTemplate :: c.templateModes }.IsSettled :=
  { settled with
    mode := Mode.noConfusion
    templateModes := List.not_mem_cons_of_ne_of_not_mem Mode.noConfusion settled.templateModes }

@[spec]
theorem settles_closeTemplate : Settles closeTemplate := by
  mvcgen [closeTemplate] with grind

@[spec]
theorem settles_endTemplate : Settles endTemplate := by
  mvcgen [endTemplate]

@[spec]
theorem settles_templateAtEnd : Settles templateAtEnd := by
  mvcgen [templateAtEnd]

@[spec]
theorem settles_leaveHead : Settles leaveHead := by
  mvcgen [leaveHead]

/-- The start tags of the head open text elements and others. -/
@[spec]
theorem openHeadTag_spec {tag : Tag} (inHead : headTags.contains tag.name ∨ tag.name = "noscript") :
    ⦃fun c => ⌜c.IsSettled⌝⦄ openHeadTag tag ⦃⇓ r c => ⌜Leads (.startTag tag) r c⌝⦄ := by
  have textElement := headTag_mem_textTags_iff inHead
  mvcgen [openHeadTag] with grind [textModeOf]

@[spec]
theorem inHead_spec (token : Token) :
    ⦃fun c => ⌜c.IsSettled⌝⦄ inHead token ⦃⇓ r c => ⌜Leads token r c⌝⦄ := by
  mvcgen [inHead] with grind

/-! ## The body -/

@[spec]
theorem settles_insertForeign {vocabulary : Vocabulary} (tag : Tag) (outside : vocabulary ≠ .page) :
    Settles (insertForeign vocabulary tag) := by
  mvcgen [insertForeign] with grind

@[spec]
theorem settles_closeItem (names : List String) : Settles (closeItem names) := by
  mvcgen [closeItem]

@[spec]
theorem settles_openInline {tag : Tag} (plain : tag.name ∉ textTags) :
    Settles (openInline tag) := by
  mvcgen [openInline] with grind

@[spec]
theorem settles_endInScope (scope : Scope) (names implied through : List String) :
    Settles (endInScope scope names implied through) := by
  mvcgen [endInScope]

/-- Which form is open makes no difference. -/
@[grind .]
theorem IsSettled.setForm {c : Construction} (settled : c.IsSettled) (form : Option Nat) :
    { c with form }.IsSettled := { settled with }

@[grind .]
theorem IsSettled.readRest {c : Construction} (settled : c.IsSettled) :
    { c with textMode := .rest }.IsSettled := { settled with textMode := Or.inr rfl }

/-- A start tag may have the line feed dropped that comes next. -/
@[grind .]
theorem IsSettled.leads_dropLineFeed {c : Construction} (settled : c.IsSettled) (tag : Tag)
    (framesAllowed : Bool) :
    Leads (.startTag tag) .done { c with dropLineFeed := true, framesAllowed } :=
  Or.inr ⟨⟨tag, rfl⟩, rfl, Or.inr { settled with lineFeed := rfl }⟩

@[spec]
theorem startBlock?_spec {tag : Tag} (plain : tag.name ∉ textTags) :
    ⦃fun c => ⌜c.IsSettled⌝⦄ startBlock? tag
    ⦃⇓ o c => ⌜match o with
      | some r => Leads (.startTag tag) r c
      | none => c.IsSettled⌝⦄ := by
  mvcgen [startBlock?] with grind [textTags]

@[spec]
theorem startInline?_spec {tag : Tag} (plain : tag.name ∉ textTags) :
    ⦃fun c => ⌜c.IsSettled⌝⦄ startInline? tag ⦃⇓ _ c => ⌜c.IsSettled⌝⦄ := by
  mvcgen [startInline?] with grind [textTags]

@[spec]
theorem settles_startOther {tag : Tag} (plain : tag.name ∉ textTags) :
    Settles (startOther tag) := by
  mvcgen [startOther] with grind

@[spec]
theorem settles_bodyAgain (tag : Tag) : Settles (bodyAgain tag) := by
  mvcgen [bodyAgain]

/-- An open element may be taken out of the tree. -/
theorem IsSettled.detach {c : Construction} (settled : c.IsSettled) {id : Nat}
    (opened : id ∈ c.stack) : { c with arena := c.arena.detach id }.IsSettled :=
  have taken := settled.arena.rearranges_detach (settled.arena.isLoose (settled.stack id opened))
  settled.follow taken.follows

/-- The element inside the root may be taken out of the tree, with all that is open in it. -/
@[grind .]
theorem IsSettled.leaveSecond {c : Construction} (settled : c.IsSettled) {root second : Nat}
    {later : List Nat} (reversed : c.stack.reverse = root :: second :: later) :
    { c with arena := c.arena.detach second, stack := [root] }.IsSettled := by
  have opened : ∀ id ∈ root :: second :: later, id ∈ c.stack := fun id member =>
    List.mem_reverse.mp (reversed ▸ member)
  apply (settled.detach (opened second (by simp))).leave
  exact fun id member => opened id (List.mem_cons.mpr (Or.inl (List.mem_singleton.mp member)))

@[spec]
theorem settles_framesForBody {tag : Tag} (plain : tag.name ∉ textTags) :
    Settles (framesForBody tag) := by
  mvcgen [framesForBody] with grind

theorem Leads.retag {a b : Tag} {r : Outcome} {c : Construction} (leads : Leads (.startTag a) r c) :
    Leads (.startTag b) r c := by
  rcases leads with settled | ⟨-, done, started⟩
  · exact settled.leads _ _
  · exact Or.inr ⟨⟨b, rfl⟩, done, started⟩

/-- Opening a text area has the line feed dropped that its text begins with. -/
@[grind .]
theorem HasOpened.dropLineFeed {c : Construction} {tag : Tag} (opened : c.HasOpened tag)
    (name : tag.name = "textarea") : { c with dropLineFeed := true }.HasOpened tag := by
  rcases opened with ⟨id, reading⟩
  exact ⟨id, { reading with lineFeed := fun _ => name }⟩

theorem startInBody_textarea {tag : Tag} (name : tag.name = "textarea") :
    ⦃fun c => ⌜c.IsSettled⌝⦄ startInBody tag ⦃⇓ r c => ⌜Leads (.startTag tag) r c⌝⦄ := by
  have steps : startInBody tag = do
      forbidFrames
      openText tag (.escapable "textarea")
      modify fun c => { c with dropLineFeed := true }
      return .done := by
    simp [startInBody, startBlock?, startInline?, name, headTags, blockTags, headingTags,
      formattingTags]
  rw [steps]
  mvcgen with grind [textTags, textModeOf]

/-- A rule that opens a text element after some preparation leads into the element. -/
theorem leads_openText {prepare : Build Unit} (settles : Settles prepare) {tag : Tag}
    (element : tag.name ∈ textTags) :
    ⦃fun c => ⌜c.IsSettled⌝⦄ (do
      prepare
      openText tag (textModeOf tag.name)
      return Outcome.done)
    ⦃⇓ r c => ⌜Leads (.startTag tag) r c⌝⦄ := by
  mvcgen [settles] with grind

theorem startInBody_xmp {tag : Tag} (name : tag.name = "xmp") :
    ⦃fun c => ⌜c.IsSettled⌝⦄ startInBody tag ⦃⇓ r c => ⌜Leads (.startTag tag) r c⌝⦄ := by
  have steps : startInBody tag = do
      (do closeParagraphInScope; reopenFormatting; forbidFrames)
      openText tag (textModeOf tag.name)
      return .done := by
    simp [startInBody, startBlock?, name, headTags, blockTags, headingTags, textModeOf]
  rw [steps]
  exact leads_openText (by mvcgen) (by simp [name, textTags])

theorem startInBody_iframe {tag : Tag} (name : tag.name = "iframe") :
    ⦃fun c => ⌜c.IsSettled⌝⦄ startInBody tag ⦃⇓ r c => ⌜Leads (.startTag tag) r c⌝⦄ := by
  have steps : startInBody tag = do
      forbidFrames
      openText tag (textModeOf tag.name)
      return .done := by
    simp [startInBody, startBlock?, startInline?, name, headTags, blockTags, headingTags,
      formattingTags, textModeOf]
  rw [steps]
  exact leads_openText settles_forbidFrames (by simp [name, textTags])

theorem startInBody_noembed_or_noscript {tag : Tag}
    (name : tag.name = "noembed" ∨ tag.name = "noscript") :
    ⦃fun c => ⌜c.IsSettled⌝⦄ startInBody tag ⦃⇓ r c => ⌜Leads (.startTag tag) r c⌝⦄ := by
  have nothing : Settles (pure ()) := by mvcgen
  have steps : startInBody tag = pure () >>= fun _ => do
      openText tag (textModeOf tag.name)
      return .done := by
    rcases name with name | name
    all_goals
      simp [startInBody, startBlock?, startInline?, name, headTags, blockTags, headingTags,
        formattingTags, textModeOf]
  rw [steps]
  exact leads_openText nothing (by rcases name with name | name <;> simp [name, textTags])

theorem startInBody_plain {tag : Tag} (plain : tag.name ∉ textTags) :
    ⦃fun c => ⌜c.IsSettled⌝⦄ startInBody tag ⦃⇓ r c => ⌜Leads (.startTag tag) r c⌝⦄ := by
  have retagged := retag_not_mem_textTags plain
  mvcgen [startInBody] with grind [Leads.retag]

theorem startInBody_headTag {tag : Tag} (inHead : headTags.contains tag.name = true) :
    ⦃fun c => ⌜c.IsSettled⌝⦄ startInBody tag ⦃⇓ r c => ⌜Leads (.startTag tag) r c⌝⦄ := by
  have steps : startInBody tag = openHeadTag tag := by
    have other : tag.name ≠ "html" := by
      intro same
      simp [same, headTags] at inHead
    rw [startInBody, if_neg other, if_pos inHead]
  rw [steps]
  exact openHeadTag_spec (Or.inl inHead)

@[spec]
theorem startInBody_spec (tag : Tag) :
    ⦃fun c => ⌜c.IsSettled⌝⦄ startInBody tag ⦃⇓ r c => ⌜Leads (.startTag tag) r c⌝⦄ := by
  by_cases element : tag.name ∈ textTags
  · by_cases inHead : headTags.contains tag.name = true
    · exact startInBody_headTag inHead
    · have others : tag.name = "textarea" ∨ tag.name = "xmp" ∨ tag.name = "iframe" ∨
          (tag.name = "noembed" ∨ tag.name = "noscript") := by
        simp_all [textTags, headTags]
      rcases others with name | name | name | name
      · exact startInBody_textarea name
      · exact startInBody_xmp name
      · exact startInBody_iframe name
      · exact startInBody_noembed_or_noscript name
  · exact startInBody_plain element

@[spec]
theorem settles_endForm : Settles endForm := by
  mvcgen [endForm] with grind

@[spec]
theorem settles_endInBody (tag : Tag) : Settles (endInBody tag) := by
  mvcgen [endInBody]

@[spec]
theorem inBody_spec (token : Token) :
    ⦃fun c => ⌜c.IsSettled⌝⦄ inBody token ⦃⇓ r c => ⌜Leads token r c⌝⦄ := by
  mvcgen [inBody] with grind

end Construction
end Markup
end Folio
