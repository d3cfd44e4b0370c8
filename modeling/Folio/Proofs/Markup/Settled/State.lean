import Folio.Markup.Construction.Adoption
import Folio.Proofs.Markup.TextElement
import Folio.Proofs.Markup.TextRun

namespace Folio
namespace Markup

open Std.Do

set_option mvcgen.warning false

/-!
# Construction between text elements

Tree construction is settled if it stands in no text element.  All text elements are complete then,
and nothing that construction may put a node into is one: not an open element, nor the head, nor the
contents of a template.  Nor is a formatting element that is to be reopened.  The steps that all
rules share keep construction settled, except for the one that opens a text element.

Each step has a triple.  Where a rule changes the state by itself, a lemma says that this keeps it
settled, and is tagged for `grind`, which puts the lemmas together for the branches of a rule.
-/

namespace Construction

variable {α : Type}

theorem triple_of_run {m : Build α} {P : Construction → Prop} {Q : α → Construction → Prop}
    (runs : ∀ c, P c → Q (m.run c).1 (m.run c).2) :
    ⦃fun c => ⌜P c⌝⦄ m ⦃⇓ r c => ⌜Q r c⌝⦄ := runs

theorem run_of_triple {m : Build α} {P : Construction → Prop} {Q : α → Construction → Prop}
    (triple : ⦃fun c => ⌜P c⌝⦄ m ⦃⇓ r c => ⌜Q r c⌝⦄) {c : Construction} (before : P c) :
    Q (m.run c).1 (m.run c).2 := triple c before

/-- Whether no remembered formatting element was written by the tag of a text element. -/
def FormatsPlainly (entries : List FormatEntry) : Prop :=
  ∀ id tag, .element id tag ∈ entries → tag.name ∉ textTags

theorem mem_of_mem_recentFormatting {entries : List FormatEntry} {e : Nat × Tag}
    (member : e ∈ recentFormatting entries) : .element e.1 e.2 ∈ entries := by
  induction entries with
  | nil => cases member
  | cons entry entries inductionHypothesis =>
      cases entry with
      | marker => cases member
      | element id tag =>
          rcases List.mem_cons.mp member with rfl | member
          · exact List.mem_cons_self
          · exact List.mem_cons_of_mem _ (inductionHypothesis member)

theorem FormatsPlainly.forget {entries : List FormatEntry} (plain : FormatsPlainly entries)
    (id : Nat) : FormatsPlainly (forget id entries) :=
  fun x tag member => plain x tag (List.mem_of_mem_filter member)

theorem FormatsPlainly.cons {entries : List FormatEntry} (plain : FormatsPlainly entries) {tag : Tag}
    (name : tag.name ∉ textTags) (id : Nat) : FormatsPlainly (.element id tag :: entries) := by
  intro x other member
  rcases List.mem_cons.mp member with same | member
  · cases same
    exact name
  · exact plain x other member

theorem splitLeft_spec (c : Construction) {entries : List FormatEntry}
    (plain : FormatsPlainly entries) :
    (∀ tag ∈ (c.splitLeft entries).1, tag.name ∉ textTags) ∧
      FormatsPlainly (c.splitLeft entries).2 := by
  induction entries with
  | nil => exact ⟨fun _ member => (by cases member), plain⟩
  | cons entry entries inductionHypothesis =>
      have later := inductionHypothesis fun x other member =>
        plain x other (List.mem_cons_of_mem entry member)
      cases entry with
      | marker => exact ⟨fun _ member => (by cases member), plain⟩
      | element id tag =>
          rw [splitLeft]
          split
          · exact ⟨fun _ member => (by cases member), plain⟩
          · refine ⟨?_, later.2⟩
            intro other member
            rcases List.mem_cons.mp member with rfl | member
            · exact plain id other List.mem_cons_self
            · exact later.1 other member

/-- Whether nodes may be put into a place. -/
def Place.FitsIn (a : Arena) : Place → Prop
  | .within parent => a.CanHold parent
  | .before sibling => a.CanHold sibling

theorem Place.FitsIn.of_admits {a a' : Arena} {place : Place} (fits : place.FitsIn a)
    (admits : a.Admits a') : place.FitsIn a' := by
  cases place with
  | within parent => exact admits parent fits
  | before sibling => exact admits sibling fits

/-! ## The state of construction -/

variable [Arena.FollowedTexts]

/-- What holds at any time, whether a text is complete or not. -/
structure IsSoundBut (c : Construction) (incomplete : Option Nat) : Prop where
  arena : c.arena.IsSoundBut incomplete
  document : c.arena.CanHold 0
  head : ∀ id, c.head = some id → c.arena.CanHold id
  templates : ∀ t ∈ c.templates, c.arena.CanHold t.1 ∧ c.arena.CanHold t.2
  formatting : FormatsPlainly c.formatting
  savedMode : c.savedMode ≠ .inText
  templateModes : .inText ∉ c.templateModes
  pending : ∀ token ∈ c.pending, token.isRun = true

/-- Whether construction stands in no text element, and drops no line feed that comes next. -/
structure IsSettled (c : Construction) : Prop extends c.IsSoundBut none where
  stack : ∀ id ∈ c.stack, c.arena.CanHold id
  mode : c.mode ≠ .inText
  textMode : c.textMode = .markup ∨ c.textMode = .rest
  lineFeed : c.dropLineFeed = false

/-- Whether construction stands in a text element, in which it has put some text. -/
structure IsReading (c : Construction) (id : Nat) (tag : Tag) (text : String) : Prop
    extends c.IsSoundBut (some id) where
  element : tag.name ∈ textTags
  kind : c.arena.kind? id = some (.element .page tag.name tag.attrs)
  stack : c.stack.head? = some id
  outer : ∀ x ∈ c.stack.tail, c.arena.CanHold x
  mode : c.mode = .inText
  textMode : c.textMode = textModeOf tag.name
  lineFeed : c.dropLineFeed = true → tag.name = "textarea"
  holds : c.arena.HoldsText id text

/-- Whether construction stands in a text element that a tag has opened and that is still empty. -/
def HasOpened (c : Construction) (tag : Tag) : Prop := ∃ id, c.IsReading id tag ""

/-- Whether a step keeps construction settled. -/
abbrev Settles (m : Build α) : Prop := ⦃fun c => ⌜c.IsSettled⌝⦄ m ⦃⇓ _ c => ⌜c.IsSettled⌝⦄

theorem settles_modify {f : Construction → Construction}
    (keeps : ∀ c : Construction, c.IsSettled → (f c).IsSettled) : Settles (modify f) :=
  triple_of_run keeps

theorem settles_forM {β : Type} {values : List β} {step : β → Build Unit}
    (each : ∀ value ∈ values, Settles (step value)) : Settles (values.forM step) := by
  induction values with
  | nil => exact triple_of_run fun _ settled => settled
  | cons value values inductionHypothesis =>
      apply triple_of_run
      intro c settled
      have first := run_of_triple (each value List.mem_cons_self) settled
      exact run_of_triple (inductionHypothesis fun other member =>
        each other (List.mem_cons_of_mem value member)) first

@[spec]
theorem settles_setMode {mode : Mode} (other : mode ≠ .inText) : Settles (setMode mode) :=
  settles_modify fun _ settled => { settled with mode := other }

/-- Open elements may be left. -/
theorem IsSettled.leave {c : Construction} (settled : c.IsSettled) {stack : List Nat}
    (fewer : ∀ id ∈ stack, id ∈ c.stack) : { c with stack }.IsSettled :=
  { settled with stack := fun id member => settled.stack id (fewer id member) }

@[grind .]
theorem IsSettled.leaveWhile {c : Construction} (settled : c.IsSettled) (p : Nat → Bool) :
    { c with stack := c.stack.dropWhile p }.IsSettled :=
  settled.leave fun _ => ((List.dropWhile_sublist p).subset ·)

@[grind .]
theorem IsSettled.leaveThrough {c : Construction} (settled : c.IsSettled) (p : Nat → Bool) :
    { c with stack := (c.stack.dropWhile p).drop 1 }.IsSettled :=
  settled.leave fun _ member => (List.dropWhile_sublist p).subset (List.mem_of_mem_drop member)

@[grind .]
theorem IsSettled.leaveAmong {c : Construction} (settled : c.IsSettled) (p : Nat → Bool) :
    { c with stack := c.stack.filter p }.IsSettled :=
  settled.leave fun _ => List.mem_of_mem_filter

@[spec]
theorem settles_close : Settles close :=
  settles_modify fun _ settled => settled.leave fun _ => List.mem_of_mem_drop

@[spec]
theorem settles_closeThrough (names : List String) : Settles (closeThrough names) :=
  settles_modify fun _ settled => settled.leaveThrough _

@[spec]
theorem settles_closeDownTo (names : List String) : Settles (closeDownTo names) :=
  settles_modify fun _ settled => settled.leaveWhile _

@[spec]
theorem settles_closeImplied (except : List String) : Settles (closeImplied except) :=
  settles_modify fun _ settled => settled.leaveWhile _

@[spec]
theorem settles_closeImpliedThoroughly : Settles closeImpliedThoroughly :=
  settles_modify fun _ settled => settled.leaveWhile _

@[spec]
theorem settles_closeParagraph : Settles closeParagraph := by
  mvcgen [closeParagraph]

@[spec]
theorem settles_closeParagraphInScope : Settles closeParagraphInScope := by
  mvcgen [closeParagraphInScope]

@[spec]
theorem settles_addMarker : Settles addMarker :=
  settles_modify fun _ settled => { settled with
    formatting := fun id tag member => by
      rcases List.mem_cons.mp member with impossible | member
      · cases impossible
      · exact settled.formatting id tag member }

@[spec]
theorem settles_clearToMarker : Settles clearToMarker :=
  settles_modify fun _ settled => { settled with
    formatting := fun id tag member => settled.formatting id tag
      ((List.dropWhile_sublist _).subset (List.mem_of_mem_drop member)) }

@[spec]
theorem settles_forbidFrames : Settles forbidFrames :=
  settles_modify fun _ settled => { settled with }

/-- A step on the tree that leaves it consistent keeps construction settled. -/
theorem IsSettled.follow {c : Construction} (settled : c.IsSettled) {arena : Arena}
    (follows : c.arena.Follows none arena) : { c with arena }.IsSettled where
  arena := follows.sound
  document := follows.admits 0 settled.document
  head id isHead := follows.admits id (settled.head id isHead)
  templates t member :=
    ⟨follows.admits _ (settled.templates t member).1,
      follows.admits _ (settled.templates t member).2⟩
  formatting := settled.formatting
  savedMode := settled.savedMode
  templateModes := settled.templateModes
  pending := settled.pending
  stack id member := follows.admits id (settled.stack id member)
  mode := settled.mode
  textMode := settled.textMode
  lineFeed := settled.lineFeed

@[spec]
theorem settles_addMissingAttrs (id : Nat) (attrs : Dict String) :
    Settles (addMissingAttrs id attrs) :=
  settles_modify fun _ settled => settled.follow (settled.arena.modifyAttrs id _)

theorem IsSettled.fitsIn_insideOf {c : Construction} (settled : c.IsSettled) {id : Nat}
    (holds : c.arena.CanHold id) : (c.insideOf id).FitsIn c.arena := by
  rw [insideOf, Place.FitsIn]
  cases found : c.templates.lookup id with
  | none => exact holds
  | some contents => exact (settled.templates _ (Table.mem_of_lookup_eq_some found)).2

theorem IsSettled.canHold_getD {c : Construction} (settled : c.IsSettled) {found : Option Nat}
    (opened : ∀ id, found = some id → id ∈ c.stack) : c.arena.CanHold (found.getD 0) := by
  cases found with
  | none => exact settled.document
  | some id => exact settled.stack id (opened id rfl)

/-- The place for a node is no text element. -/
theorem IsSettled.fitsIn_placeFor {c : Construction} (settled : c.IsSettled) {target : Nat}
    (holds : c.arena.CanHold target) : (c.placeFor target).FitsIn c.arena := by
  rw [placeFor]
  split
  · split
    · exact settled.fitsIn_insideOf (settled.canHold_getD fun id => List.mem_of_getLast?)
    · next id outer found =>
        have opened : ∀ x ∈ id :: outer, x ∈ c.stack :=
          fun x member => (List.dropWhile_sublist _).subset (found ▸ member)
        have idHolds := settled.stack id (opened id List.mem_cons_self)
        split
        · exact settled.fitsIn_insideOf idHolds
        · split
          · exact idHolds
          · apply settled.fitsIn_insideOf
            apply settled.canHold_getD
            exact fun x isHead => opened x (List.mem_cons_of_mem id (List.mem_of_head? isHead))
  · exact settled.fitsIn_insideOf holds

theorem IsSettled.fitsIn_place {c : Construction} (settled : c.IsSettled) :
    c.place.FitsIn c.arena :=
  settled.fitsIn_placeFor (settled.canHold_getD fun _ => List.mem_of_head?)

/-- A loose item may be hung into a place that fits. -/
theorem Place.FitsIn.put {a : Arena} {place : Place} (fits : place.FitsIn a)
    {incomplete : Option Nat} (sound : a.IsSoundBut incomplete) {id : Nat}
    (present : (a.kind? id).isSome) (loose : a.IsLoose id) :
    a.Rearranges incomplete (put a id place) := by
  cases place with
  | within parent => exact sound.append fits present loose
  | before sibling => exact sound.insertBefore (sound.isLoose fits) present loose

@[spec]
theorem settles_insertText (text : String) : Settles (insertText text) := by
  apply settles_modify
  intro c settled
  apply settled.follow
  have fits := settled.fitsIn_place
  split
  · next parent isPlace =>
      rw [isPlace] at fits
      split
      · exact ⟨settled.arena, fun _ holds => holds⟩
      · exact settled.arena.appendText fits text
  · next sibling isPlace =>
      rw [isPlace] at fits
      exact settled.arena.insertTextBefore (settled.arena.isLoose fits) text

/-- A new item may be put into a place that fits. -/
theorem Place.FitsIn.follows_put {a : Arena} {place : Place} (fits : place.FitsIn a)
    (sound : a.IsSoundBut none) (kind : ItemKind) :
    a.Follows none (Construction.put (a.add kind).1 (a.add kind).2 place) := by
  have admits := a.admits_add kind
  have step := (fits.of_admits admits).put (sound.add kind) (by rw [a.kind?_new]; rfl)
    (a.isLoose_new kind)
  exact ⟨step.sound, fun id holds => step.admits id (admits id holds)⟩

@[spec]
theorem settles_insertComment (text : String) : Settles (insertComment text) :=
  settles_modify fun _ settled =>
    settled.follow (settled.fitsIn_place.follows_put settled.arena (.comment text))

@[spec]
theorem insertCommentIn_spec (parent : Nat) (text : String) :
    ⦃fun c => ⌜c.IsSettled ∧ c.arena.CanHold parent⌝⦄ insertCommentIn parent text
    ⦃⇓ _ c => ⌜c.IsSettled⌝⦄ := by
  apply triple_of_run
  rintro c ⟨settled, holds⟩
  have fits : (Place.within parent).FitsIn c.arena := holds
  exact settled.follow (fits.follows_put settled.arena (.comment text))

/-! ## Opening elements -/

/-- What making an element leaves: a new item that hangs nowhere and holds nothing. -/
structure Makes (vocabulary : Vocabulary) (tag : Tag) (c : Construction) (id : Nat)
    (c' : Construction) : Prop where
  settled : c'.IsSettled
  admits : c.arena.Admits c'.arena
  kind : c'.arena.kind? id = some (.element vocabulary tag.name tag.attrs)
  loose : c'.arena.IsLoose id
  empty : c'.arena.HoldsText id ""
  new : c.arena.kind? id = none
  rest : c' = { c with arena := c'.arena, templates := c'.templates }

theorem makes_makeElement (vocabulary : Vocabulary) (tag : Tag) {c : Construction}
    (settled : c.IsSettled) :
    Makes vocabulary tag c ((makeElement vocabulary tag).run c).1
      ((makeElement vocabulary tag).run c).2 := by
  have sound := settled.arena.add (.element vocabulary tag.name tag.attrs)
  have admits := c.arena.admits_add (.element vocabulary tag.name tag.attrs)
  have kind := c.arena.kind?_new (.element vocabulary tag.name tag.attrs)
  have loose := c.arena.isLoose_new (.element vocabulary tag.name tag.attrs)
  have empty := c.arena.holdsText_new (.element vocabulary tag.name tag.attrs)
  have new : c.arena.kind? (c.arena.add (.element vocabulary tag.name tag.attrs)).2 = none :=
    c.arena.kind?_size
  by_cases template : vocabulary = .page ∧ tag.name = "template"
  · have result : (makeElement vocabulary tag).run c =
        (let made := c.arena.add (.element vocabulary tag.name tag.attrs)
        let contents := made.1.add .templateContents
        (made.2, { c with
          arena := contents.1, templates := (made.2, contents.2) :: c.templates })) := by
      simp only [makeElement, if_pos template]
      rfl
    rw [result]
    generalize c.arena.add (.element vocabulary tag.name tag.attrs) = made at *
    have admitsNow := made.1.admits_add .templateContents
    have holds : made.1.CanHold made.2 := by
      refine ⟨_, kind, ?_⟩
      rw [template.2, ItemKind.canHold, Bool.or_eq_true]
      exact Or.inr (by decide)
    have contentsHold : (made.1.add .templateContents).1.CanHold
        (made.1.add .templateContents).2 := ⟨_, made.1.kind?_new _, rfl⟩
    have followed := settled.follow
      ⟨sound.add .templateContents, fun id holds => admitsNow id (admits id holds)⟩
    constructor
    · refine { followed with templates := ?_ }
      rintro t member
      rcases List.mem_cons.mp member with rfl | member
      · exact ⟨admitsNow _ holds, contentsHold⟩
      · exact followed.templates t member
    · exact fun id holds => admitsNow id (admits id holds)
    · exact Arena.kind?_add_of_some kind
    · exact sound.isLoose_add loose .templateContents
    · exact Arena.holdsText_add empty .templateContents
    · exact new
    · rfl
  · have result : (makeElement vocabulary tag).run c =
        (let made := c.arena.add (.element vocabulary tag.name tag.attrs)
        (made.2, { c with arena := made.1 })) := by
      simp only [makeElement, if_neg template]
      rfl
    rw [result]
    exact ⟨settled.follow ⟨sound, admits⟩, admits, kind, loose, empty, new, rfl⟩

/-- A new item is in no text that is followed. -/
theorem Makes.unfollowed {vocabulary : Vocabulary} {tag : Tag} {c c' : Construction} {id : Nat}
    (makes : Makes vocabulary tag c id c') (settled : c.IsSettled) {name text : String} :
    ¬ Arena.FollowedTexts.holds id name text := by
  intro follows
  rcases (settled.arena.followed id name text follows).2 with ⟨⟨-, attrs, isKind⟩, -⟩
  rw [makes.new] at isKind
  cases isKind

/-- An element that may hold nodes can be opened. -/
@[spec]
theorem openForeign_spec {vocabulary : Vocabulary} {tag : Tag}
    (plain : vocabulary = .page → tag.name ∉ textTags) :
    ⦃fun c => ⌜c.IsSettled⌝⦄ openForeign vocabulary tag
    ⦃⇓ id c => ⌜c.IsSettled ∧ c.arena.CanHold id⌝⦄ := by
  apply triple_of_run
  intro c settled
  have makes := makes_makeElement vocabulary tag settled
  have holds : ((makeElement vocabulary tag).run c).2.arena.CanHold
      ((makeElement vocabulary tag).run c).1 := by
    refine ⟨_, makes.kind, ?_⟩
    by_cases page : vocabulary = .page
    · simp [ItemKind.canHold, plain page]
    · simp [ItemKind.canHold, page]
  have fits := settled.fitsIn_place.of_admits makes.admits
  have step := fits.put makes.settled.arena holds.isSome makes.loose
  have hung := makes.settled.follow step.follows
  refine ⟨{ hung with stack := ?_ }, step.admits _ holds⟩
  intro id member
  rcases List.mem_cons.mp member with rfl | member
  · exact step.admits _ holds
  · exact hung.stack id member

@[spec]
theorem settles_openElement {tag : Tag} (plain : tag.name ∉ textTags) :
    Settles (openElement tag) := by
  mvcgen [openElement] with grind

@[spec]
theorem settles_openVoid {tag : Tag} (plain : tag.name ∉ textTags) : Settles (openVoid tag) := by
  mvcgen [openVoid]

/-- Opening a text element leads into it. -/
@[spec]
theorem openText_spec {tag : Tag} {textMode : TextMode} (element : tag.name ∈ textTags)
    (isMode : textMode = textModeOf tag.name) :
    ⦃fun c => ⌜c.IsSettled⌝⦄ openText tag textMode ⦃⇓ _ c => ⌜c.HasOpened tag⌝⦄ := by
  apply triple_of_run
  intro c settled
  have makes := makes_makeElement .page tag settled
  have step := (settled.fitsIn_place.of_admits makes.admits).put makes.settled.arena
    (by rw [makes.kind]; rfl) makes.loose
  have hung := makes.settled.follow step.follows
  refine ⟨((makeElement .page tag).run c).1, ?_⟩
  exact {
    arena := step.sound.weaken fun _ _ => makes.unfollowed settled
    document := hung.document
    head := hung.head
    templates := hung.templates
    formatting := hung.formatting
    savedMode := makes.settled.mode
    templateModes := hung.templateModes
    pending := hung.pending
    element
    kind := (step.kinds _).trans makes.kind
    stack := rfl
    outer := hung.stack
    mode := rfl
    textMode := isMode
    lineFeed := fun drops => absurd (makes.settled.lineFeed.symm.trans drops) Bool.false_ne_true
    holds := step.texts _ tag.name _ ⟨element, tag.attrs, makes.kind⟩ makes.empty }

@[spec]
theorem settles_remember (id : Nat) {tag : Tag} (plain : tag.name ∉ textTags) :
    Settles (remember id tag) := by
  apply settles_modify
  intro c settled
  refine { settled with formatting := FormatsPlainly.cons ?_ plain id }
  split
  · exact settled.formatting.forget _
  · exact settled.formatting

@[spec]
theorem settles_reopenFormatting : Settles reopenFormatting := by
  apply triple_of_run
  intro c settled
  have split := c.splitLeft_spec settled.formatting
  have step : ∀ tag ∈ (c.splitLeft c.formatting).1.reverse, Settles (do
      let id ← openForeign .page tag
      modify fun c => { c with formatting := .element id tag :: c.formatting }) := by
    intro tag member
    have plain := split.1 tag (List.mem_reverse.mp member)
    apply triple_of_run
    intro c settled
    have opened : ((openForeign .page tag).run c).2.IsSettled :=
      (run_of_triple (openForeign_spec fun _ => plain) settled).1
    exact { opened with formatting := opened.formatting.cons plain _ }
  exact run_of_triple (settles_forM step) (c := { c with formatting := _ })
    { settled with formatting := split.2 }

@[spec]
theorem settles_openFormatting {tag : Tag} (plain : tag.name ∉ textTags) :
    Settles (openFormatting tag) := by
  mvcgen [openFormatting] with grind

end Construction
end Markup
end Folio
