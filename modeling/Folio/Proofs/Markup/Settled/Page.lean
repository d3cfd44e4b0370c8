import Folio.Markup.Construction.Page
import Folio.Proofs.Markup.Settled.Table

namespace Folio
namespace Markup
namespace Construction

open Std.Do

set_option mvcgen.warning false

/-!
# Pages between text elements

Whatever part of a page construction is in, a token leaves it settled, or leads it into a text
element.  The only part left out is the one inside a text element.
-/

/-- The innermost open element is outside the page vocabulary, if the rules for drawings and formulas
apply. -/
@[grind →]
theorem vocabulary_ne_page {c : Construction} {token : Token} (isForeign : c.isForeign token = true)
    {vocabulary : Vocabulary} {name : String}
    (current : c.stack.head?.bind c.name? = some (vocabulary, name)) : vocabulary ≠ .page := by
  rintro rfl
  rcases Option.bind_eq_some_iff.mp current with ⟨id, isHead, isName⟩
  rw [Construction.isForeign, isHead] at isForeign
  simp [isName] at isForeign

/-- The elements that an end tag leaves open outside the page vocabulary were open. -/
theorem mem_of_endForeign_eq_some {c : Construction} {name : String} {outer stack : List Nat}
    (among : ∀ id ∈ outer, id ∈ c.stack) (ends : endForeign c name outer = some stack) :
    ∀ id ∈ stack, id ∈ c.stack := by
  induction outer with
  | nil =>
      cases ends
      exact fun _ member => member
  | cons id outer inductionHypothesis =>
      have later : ∀ x ∈ outer, x ∈ c.stack := fun x member =>
        among x (List.mem_cons_of_mem id member)
      rw [endForeign] at ends
      split at ends
      · cases ends
      · cases ends
      · split at ends
        · cases ends
          exact fun _ member => member
        · split at ends
          · cases ends
            exact later
          · exact inductionHypothesis later ends

/-- Opening an element leaves the head what it is. -/
theorem head_makeElement (vocabulary : Vocabulary) (tag : Tag) (c : Construction) :
    ((makeElement vocabulary tag).run c).2.head = c.head := by
  rw [makeElement]
  simp only [StateT.run_bind, StateT.run_get, pure_bind]
  split <;> rfl

theorem head_inHead {tag : Tag} (isHeadTag : headTags.contains tag.name = true) (c : Construction) :
    ((inHead (.startTag tag)).run c).2.head = c.head := by
  have other : tag.name ≠ "html" := by
    intro same
    simp [same, headTags] at isHeadTag
  rw [inHead, if_neg other, if_pos (Or.inl isHeadTag), openHeadTag]
  repeat' split
  all_goals exact head_makeElement .page tag c

/-- A token is looked at once, at least. -/
theorem exists_lookBound (c : Construction) : ∃ looks, c.lookBound = looks + 1 :=
  Nat.exists_eq_add_one.mpr (by rw [lookBound]; omega)

theorem withoutLineFeed_cases (token : Token) :
    withoutLineFeed token = [token] ∨ token.isRun = true ∧
      (withoutLineFeed token = [] ∨ ∃ rest, withoutLineFeed token = [.blank rest]) := by
  rw [withoutLineFeed.eq_def]
  split
  · split
    · refine Or.inr ⟨rfl, ?_⟩
      split
      · exact Or.inl rfl
      · exact Or.inr ⟨_, rfl⟩
    · exact Or.inl rfl
  · exact Or.inl rfl

-- How often a token is looked at is a product, which must not be computed: what goes before the
-- rules is kept apart from them.

/-- Giving the rules a token from which a line feed has been dropped, if one is to be. -/
def dropLineFeedBefore (rules : Token → Build Unit) (token : Token) : Build Unit := do
  let c ← get
  set { c with dropLineFeed := false }
  (if c.dropLineFeed then withoutLineFeed token else [token]).forM rules

/-- The rules are given the token, but for a run at whose start a line feed is dropped. -/
theorem run_dropLineFeedBefore (rules : Token → Build Unit) (token : Token) (c : Construction) :
    (dropLineFeedBefore rules token).run c = (rules token).run { c with dropLineFeed := false } ∨
      (c.dropLineFeed = true ∧ token.isRun = true) ∧
        ((dropLineFeedBefore rules token).run c = ((), { c with dropLineFeed := false }) ∨
          ∃ rest, (dropLineFeedBefore rules token).run c =
            (rules (.blank rest)).run { c with dropLineFeed := false }) := by
  have result : (dropLineFeedBefore rules token).run c =
      ((if c.dropLineFeed then withoutLineFeed token else [token]).forM rules).run
        { c with dropLineFeed := false } := rfl
  have single : ∀ t, [t].forM rules = rules t := fun _ => bind_pure_unit
  rw [result]
  by_cases drops : c.dropLineFeed = true
  · rw [if_pos drops]
    rcases withoutLineFeed_cases token with kept | ⟨isRun, none | ⟨rest, shorter⟩⟩
    · rw [kept, single]
      exact Or.inl rfl
    · rw [none]
      exact Or.inr ⟨⟨drops, isRun⟩, Or.inl rfl⟩
    · rw [shorter, single]
      exact Or.inr ⟨⟨drops, isRun⟩, Or.inr ⟨rest, rfl⟩⟩
  · rw [if_neg drops, single]
    exact Or.inl rfl

/-- Giving a token to the rules. -/
def look (token : Token) : Build Unit := do handle token (lookBound (← get)) false

theorem accept_eq (token : Token) : accept token = dropLineFeedBefore look token := rfl

theorem run_get_bind {α : Type} (next : Construction → Build α) (c : Construction) :
    (get >>= next).run c = (next c).run c := rfl

theorem run_look (token : Token) (c : Construction) :
    (look token).run c = (handle token c.lookBound false).run c :=
  run_get_bind (fun c => handle token c.lookBound false) c

variable [Arena.FollowedTexts]

@[spec]
theorem settles_leaveForeign : Settles leaveForeign := by
  mvcgen [leaveForeign] with grind

@[grind .]
theorem IsSettled.endForeign {c : Construction} (settled : c.IsSettled) {name : String}
    {stack : List Nat} (ends : Construction.endForeign c name c.stack = some stack) :
    { c with stack }.IsSettled :=
  settled.leave (mem_of_endForeign_eq_some (fun _ member => member) ends)

@[spec]
theorem inForeign_spec (token : Token) :
    ⦃fun c => ⌜c.IsSettled ∧ c.isForeign token = true⌝⦄ inForeign token
    ⦃⇓ r c => ⌜Leads token r c⌝⦄ := by
  mvcgen [inForeign] with grind

/-! ## Around the body -/

@[grind .]
theorem IsSettled.startPage {c : Construction} (settled : c.IsSettled) (oldPage : Bool) :
    { c with oldPage, mode := .beforeRoot }.IsSettled :=
  { settled with mode := Mode.noConfusion }

@[grind →]
theorem IsSettled.canHold_document {c : Construction} (settled : c.IsSettled) :
    c.arena.CanHold 0 := settled.document

@[spec]
theorem inInitial_spec (token : Token) :
    ⦃fun c => ⌜c.IsSettled⌝⦄ inInitial token ⦃⇓ r c => ⌜Leads token r c⌝⦄ := by
  mvcgen [inInitial] with grind

@[spec]
theorem settles_openRoot {tag : Tag} (plain : tag.name ∉ textTags) : Settles (openRoot tag) := by
  apply triple_of_run
  intro c settled
  have makes := makes_makeElement .page tag settled
  have holds := makes.canHold plain
  have step := makes.settled.rearranges_append makes.settled.document holds
  have hung := makes.settled.follow step.follows
  exact { hung with
    stack := fun _ member => List.mem_singleton.mp member ▸ step.admits _ holds
    mode := Mode.noConfusion }

@[spec]
theorem inBeforeRoot_spec (token : Token) :
    ⦃fun c => ⌜c.IsSettled⌝⦄ inBeforeRoot token ⦃⇓ r c => ⌜Leads token r c⌝⦄ := by
  mvcgen [inBeforeRoot] with grind

@[grind .]
theorem IsSettled.enterHead {c : Construction} (settled : c.IsSettled) {head : Nat}
    (holds : c.arena.CanHold head) : { c with head := some head, mode := .inHead }.IsSettled :=
  { settled with
    head := fun _ isHead => Option.some.inj isHead ▸ holds
    mode := Mode.noConfusion }

@[spec]
theorem settles_openHead {tag : Tag} (plain : tag.name ∉ textTags) : Settles (openHead tag) := by
  mvcgen [openHead] with grind

@[spec]
theorem inBeforeHead_spec (token : Token) :
    ⦃fun c => ⌜c.IsSettled⌝⦄ inBeforeHead token ⦃⇓ r c => ⌜Leads token r c⌝⦄ := by
  mvcgen [inBeforeHead] with grind

/-- What may hold nodes is no text element that construction stands in. -/
theorem IsReading.ne_of_canHold {c : Construction} {id : Nat} {tag : Tag} {text : String}
    (reading : c.IsReading id tag text) {other : Nat} (holds : c.arena.CanHold other) :
    id ≠ other := by
  rintro rfl
  exact holds.not_isTextElement tag.name ⟨reading.element, tag.attrs, reading.kind⟩

theorem IsReading.leave {c : Construction} {id : Nat} {tag : Tag} {text : String}
    (reading : c.IsReading id tag text) {other : Nat} (holds : c.arena.CanHold other) :
    { c with stack := c.stack.filter (· != other) }.IsReading id tag text := by
  rcases List.head?_eq_some_iff.mp reading.stack with ⟨outer, isStack⟩
  have kept : c.stack.filter (· != other) = id :: outer.filter (· != other) := by
    rw [isStack]
    exact List.filter_cons_of_pos (bne_iff_ne.mpr (reading.ne_of_canHold holds))
  refine { reading with stack := by rw [kept]; rfl, outer := ?_ }
  intro x member
  rw [kept] at member
  apply reading.outer
  rw [isStack]
  exact List.mem_of_mem_filter member

/-- The head may be left again once it holds what belongs there. -/
theorem Leads.leaveHead {token : Token} {r : Outcome} {c : Construction} (leads : Leads token r c)
    {head : Nat} (isHead : c.head = some head) :
    Leads token r { c with stack := c.stack.filter (· != head) } := by
  rcases leads with settled | ⟨isStart, done, ⟨tag, id, reading⟩ | settled⟩
  · exact (settled.leave fun _ => List.mem_of_mem_filter).leads _ _
  · exact Or.inr ⟨isStart, done, Or.inl ⟨tag, id, reading.leave (reading.head head isHead)⟩⟩
  · exact Or.inr ⟨isStart, done, Or.inr (settled.leave fun _ => List.mem_of_mem_filter)⟩

theorem inAfterHead_headTag {tag : Tag} (isHeadTag : headTags.contains tag.name = true) :
    ⦃fun c => ⌜c.IsSettled⌝⦄ inAfterHead (.startTag tag) ⦃⇓ r c => ⌜Leads (.startTag tag) r c⌝⦄ := by
  apply triple_of_run
  intro c settled
  have others : tag.name ≠ "html" ∧ tag.name ≠ "body" ∧ tag.name ≠ "frameset" := by
    refine ⟨?_, ?_, ?_⟩
    all_goals
      intro same
      simp [same, headTags] at isHeadTag
  rw [inAfterHead]
  simp only [if_neg others.1, if_neg others.2.1, if_neg others.2.2, if_pos isHeadTag,
    StateT.run_bind, StateT.run_get, pure_bind]
  cases isHead : c.head with
  | none => exact settled.leads _ _
  | some head =>
      have entered : { c with stack := head :: c.stack }.IsSettled := { settled with
        stack := List.forall_mem_cons.mpr ⟨settled.head head isHead, settled.stack⟩ }
      have leads := run_of_triple (inHead_spec (.startTag tag)) entered
      exact leads.leaveHead ((head_inHead isHeadTag _).trans isHead)

@[spec]
theorem inAfterHead_spec (token : Token) :
    ⦃fun c => ⌜c.IsSettled⌝⦄ inAfterHead token ⦃⇓ r c => ⌜Leads token r c⌝⦄ := by
  by_cases isHeadTag : ∃ tag, token = .startTag tag ∧ headTags.contains tag.name = true
  · rcases isHeadTag with ⟨tag, rfl, isHeadTag⟩
    exact inAfterHead_headTag isHeadTag
  · mvcgen [inAfterHead] with grind

@[grind →]
theorem IsSettled.canHold_root {c : Construction} (settled : c.IsSettled) :
    c.arena.CanHold (c.stack.getLast?.getD 0) :=
  settled.canHold_getD fun _ => List.mem_of_getLast?

@[spec]
theorem inAfterBody_spec (token : Token) :
    ⦃fun c => ⌜c.IsSettled⌝⦄ inAfterBody token ⦃⇓ r c => ⌜Leads token r c⌝⦄ := by
  mvcgen [inAfterBody] with grind

@[spec]
theorem inFrameset_spec (token : Token) :
    ⦃fun c => ⌜c.IsSettled⌝⦄ inFrameset token ⦃⇓ r c => ⌜Leads token r c⌝⦄ := by
  mvcgen [inFrameset] with grind

@[spec]
theorem inAfterFrameset_spec (token : Token) :
    ⦃fun c => ⌜c.IsSettled⌝⦄ inAfterFrameset token ⦃⇓ r c => ⌜Leads token r c⌝⦄ := by
  mvcgen [inAfterFrameset] with grind

@[spec]
theorem inAfterPage_spec (token : Token) :
    ⦃fun c => ⌜c.IsSettled⌝⦄ inAfterPage token ⦃⇓ r c => ⌜Leads token r c⌝⦄ := by
  mvcgen [inAfterPage] with grind

@[spec]
theorem inAfterFramesetPage_spec (token : Token) :
    ⦃fun c => ⌜c.IsSettled⌝⦄ inAfterFramesetPage token ⦃⇓ r c => ⌜Leads token r c⌝⦄ := by
  mvcgen [inAfterFramesetPage] with grind

/-! ## Looking at a token -/

@[spec]
theorem inPart_spec (token : Token) :
    ⦃fun c => ⌜c.IsSettled⌝⦄ inPart token ⦃⇓ r c => ⌜Leads token r c⌝⦄ := by
  mvcgen [inPart]
  exact absurd ‹_› (IsSettled.mode ‹_›)

/-- What holds of construction when the rules are done with a token. -/
def Landed (token : Token) (c : Construction) : Prop :=
  c.IsAtRest ∨ ((∃ tag, token = .startTag tag) ∧ ∃ tag, c.HasOpened tag)

theorem Leads.landed {token : Token} {r : Outcome} {c : Construction} (leads : Leads token r c) :
    Landed token c := by
  rcases leads with settled | ⟨isStart, -, opened | atRest⟩
  · exact Or.inl settled.isAtRest
  · exact Or.inr ⟨isStart, opened⟩
  · exact Or.inl atRest

/-- A token that is not done with leaves construction settled. -/
theorem Leads.isSettled {token : Token} {r : Outcome} {c : Construction} (leads : Leads token r c)
    (notDone : r ≠ .done) : c.IsSettled := by
  rcases leads with settled | ⟨-, done, -⟩
  · exact settled
  · exact absurd done notDone

theorem handle_spec (token : Token) (looks : Nat) (inPage : Bool) :
    ⦃fun c => ⌜c.IsSettled⌝⦄ handle token looks inPage ⦃⇓ _ c => ⌜Landed token c⌝⦄ := by
  induction looks generalizing inPage with
  | zero => exact triple_of_run fun _ settled => Or.inl settled.isAtRest
  | succ looks inductionHypothesis =>
      mvcgen [handle, inductionHypothesis] with grind [Leads.landed, Leads.isSettled]

theorem look_spec (token : Token) :
    ⦃fun c => ⌜c.IsSettled⌝⦄ look token ⦃⇓ _ c => ⌜Landed token c⌝⦄ := by
  apply triple_of_run
  intro c settled
  rw [run_look]
  generalize c.lookBound = looks
  exact run_of_triple (handle_spec token looks false) settled

/-- A token that comes at rest leaves construction at rest, or leads it into a text element. -/
theorem accept_spec (token : Token) :
    ⦃fun c => ⌜c.IsAtRest⌝⦄ accept token ⦃⇓ _ c => ⌜Landed token c⌝⦄ := by
  apply triple_of_run
  intro c atRest
  rw [accept_eq]
  rcases run_dropLineFeedBefore look token c with whole | ⟨-, none | ⟨rest, shorter⟩⟩
  · rw [whole]
    exact run_of_triple (look_spec token) atRest
  · rw [none]
    exact Or.inl (IsSettled.isAtRest atRest)
  · rw [shorter]
    rcases run_of_triple (look_spec (.blank rest)) atRest with atRestNow | ⟨⟨_, impossible⟩, -⟩
    · exact Or.inl atRestNow
    · cases impossible

end Construction
end Markup
end Folio
