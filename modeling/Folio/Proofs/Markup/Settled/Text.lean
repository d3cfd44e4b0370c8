import Folio.Proofs.Markup.Settled.Page

namespace Folio
namespace Markup
namespace Construction

open Std.Do

/-!
# Inside a text element

Runs of text make the text of the element longer, and its end tag, or the end of the page, leaves it.
Construction is settled then if the text has been cut off in front of an end tag.
-/

theorem not_tableParts {name : String} (element : name ∈ textTags) : tableParts.contains name = false := by
  have each : ∀ n ∈ textTags, tableParts.contains n = false := by decide
  exact each name element

theorem run_forM_cons {α : Type} (step : α → Build Unit) (value : α) (values : List α)
    (c : Construction) :
    ((value :: values).forM step).run c = (values.forM step).run ((step value).run c).2 := rfl

variable [Arena.FollowedTexts]

variable {c : Construction} {id : Nat} {tag : Tag} {text : String}

theorem IsReading.name? (reading : c.IsReading id tag text) : c.name? id = some (.page, tag.name) := by
  rw [Construction.name?, Arena.name?, reading.kind]

theorem IsReading.lookup (reading : c.IsReading id tag text) : c.templates.lookup id = none := by
  cases found : c.templates.lookup id with
  | none => rfl
  | some contents =>
      have holds := (reading.templates _ (Table.mem_of_lookup_eq_some found)).1
      exact absurd rfl (reading.ne_of_canHold holds)

theorem IsReading.place (reading : c.IsReading id tag text) : c.place = .within id := by
  rw [Construction.place, reading.stack, Option.getD_some, placeFor, if_neg, insideOf, reading.lookup]
  · rfl
  · rw [isNamed, reading.name?]
    exact fun misplaced => Bool.false_ne_true ((not_tableParts reading.element).symm.trans misplaced.2)

theorem IsReading.insertText (reading : c.IsReading id tag text) (more : String) :
    ((insertText more).run c).2.IsReading id tag (text ++ more) := by
  have step := reading.arena.appendText_incomplete ⟨reading.element, tag.attrs, reading.kind⟩
    reading.holds more
  have result : ((Construction.insertText more).run c).2 =
      { c with arena := c.arena.appendText id more } := by
    have notDocument : id ≠ 0 := reading.ne_of_canHold reading.document
    show { c with arena := _ } = _
    rw [reading.place]
    dsimp only
    rw [if_neg notDocument]
  rw [result]
  exact {
    arena := step.1.sound
    document := step.1.admits 0 reading.document
    head := fun x isHead => step.1.admits x (reading.head x isHead)
    templates := fun t member => ⟨step.1.admits _ (reading.templates t member).1,
      step.1.admits _ (reading.templates t member).2⟩
    formatting := reading.formatting
    savedMode := reading.savedMode
    templateModes := reading.templateModes
    pending := reading.pending
    element := reading.element
    kind := step.2.2.trans reading.kind
    stack := reading.stack
    outer := fun x member => step.1.admits x (reading.outer x member)
    mode := reading.mode
    textMode := reading.textMode
    lineFeed := reading.lineFeed
    holds := step.2.1 }

/-- Construction as it is once a text element has been left. -/
def afterText (c : Construction) : Construction :=
  { c with stack := c.stack.drop 1, mode := c.savedMode, textMode := .markup, dropLineFeed := false }

theorem IsReading.isSound (reading : c.IsReading id tag text) (whole : IsCutOff tag.name text) :
    c.arena.IsSoundBut none where
  linked := reading.arena.linked
  texts x name isText := by
    by_cases here : x = id
    · subst here
      rcases isText with ⟨-, attrs, isKind⟩
      rw [reading.kind] at isKind
      cases isKind
      exact ⟨text, reading.holds, fun _ => whole⟩
    · rcases reading.arena.texts x name isText with ⟨held, holds, complete⟩
      exact ⟨held, holds, fun _ => complete fun same => here (Option.some.inj same)⟩
  followed x name held follows := ⟨by rintro ⟨⟩, (reading.arena.followed x name held follows).2⟩

theorem IsReading.isSettled_afterText (reading : c.IsReading id tag text)
    (whole : IsCutOff tag.name text) : (afterText c).IsSettled where
  arena := reading.isSound whole
  document := reading.document
  head := reading.head
  templates := reading.templates
  formatting := reading.formatting
  savedMode := reading.savedMode
  templateModes := reading.templateModes
  pending := reading.pending
  stack x member := reading.outer x (List.drop_one ▸ member)
  mode := reading.savedMode
  textMode := Or.inl rfl
  lineFeed := rfl

theorem IsReading.not_isForeign (reading : c.IsReading id tag text) (token : Token) :
    c.isForeign token = false := by
  rw [isForeign, reading.stack]
  dsimp only
  rw [reading.name?]

/-- Inside a text element the rules for such elements apply. -/
theorem IsReading.handle_eq (reading : c.IsReading id tag text) (token : Token) (looks : Nat) :
    (handle token (looks + 1) false).run c =
      (do match ← inText token with
        | .done => pure ()
        | .again => handle token looks false
        | .againInPage => handle token looks true).run c := by
  have part : (inPart token).run c = (inText token).run c := by
    rw [inPart]
    simp only [StateT.run_bind, StateT.run_get, pure_bind, reading.mode]
  rw [handle]
  simp only [StateT.run_bind, StateT.run_get, pure_bind, reading.not_isForeign, Bool.and_false,
    Bool.false_eq_true, if_false]
  exact congrArg (· >>= _) part

theorem IsReading.look_run (reading : c.IsReading id tag text) {run : Token}
    (isRun : run.isRun = true) : ((look run).run c).2.IsReading id tag (text ++ run.runText) := by
  rcases c.exists_lookBound with ⟨looks, isBound⟩
  rw [run_look, isBound, reading.handle_eq]
  cases run with
  | blank s => exact reading.insertText s
  | chars s => exact reading.insertText s
  | null =>
      have same : text ++ Token.null.runText = text := String.append_empty
      rw [same]
      exact reading
  | _ => cases isRun

theorem IsReading.look_endTag (reading : c.IsReading id tag text) (endTag : Tag) :
    (look (.endTag endTag)).run c = ((), { afterText c with dropLineFeed := c.dropLineFeed }) := by
  rcases c.exists_lookBound with ⟨looks, isBound⟩
  rw [run_look, isBound, reading.handle_eq]
  rfl

/-- The end of the page is looked at again once the text element has been left. -/
theorem IsReading.look_endOfPage (reading : c.IsReading id tag text)
    (whole : IsCutOff tag.name text) (noLineFeed : c.dropLineFeed = false) :
    ((look .endOfPage).run c).2.IsAtRest := by
  rcases c.exists_lookBound with ⟨looks, isBound⟩
  have left : ((look .endOfPage).run c).2 = ((handle .endOfPage looks false).run (afterText c)).2 := by
    rw [run_look, isBound, reading.handle_eq, afterText, ← noLineFeed]
    rfl
  rw [left]
  rcases run_of_triple (handle_spec .endOfPage looks false) (reading.isSettled_afterText whole) with
    atRest | ⟨⟨_, impossible⟩, -⟩
  · exact atRest
  · cases impossible

theorem IsReading.withoutLineFeed (reading : c.IsReading id tag text) :
    { c with dropLineFeed := false }.IsReading id tag text :=
  { reading with lineFeed := fun impossible => absurd impossible Bool.false_ne_true }

/-- A run makes the text longer, but for a line feed that is dropped. -/
theorem IsReading.accept_run (reading : c.IsReading id tag text) {run : Token}
    (isRun : run.isRun = true) :
    ∃ longer, ((accept run).run c).2.IsReading id tag longer ∧
      (tag.name ≠ "textarea" → longer = text ++ run.runText) := by
  have keeps := reading.withoutLineFeed
  rw [accept_eq]
  rcases run_dropLineFeedBefore look run c with whole | ⟨⟨drops, -⟩, none | ⟨rest, shorter⟩⟩
  · rw [whole]
    exact ⟨_, keeps.look_run isRun, fun _ => rfl⟩
  · rw [none]
    exact ⟨text, keeps, fun other => absurd (reading.lineFeed drops) other⟩
  · rw [shorter]
    exact ⟨_, keeps.look_run rfl, fun other => absurd (reading.lineFeed drops) other⟩

theorem IsReading.accept_runs (reading : c.IsReading id tag text) {runs : List Token}
    (areRuns : ∀ run ∈ runs, run.isRun = true) :
    ∃ longer, ((runs.forM accept).run c).2.IsReading id tag longer ∧
      (tag.name ≠ "textarea" →
        longer.toList = text.toList ++ runs.flatMap fun run => run.runText.toList) := by
  induction runs generalizing c text with
  | nil => exact ⟨text, reading, fun _ => by simp⟩
  | cons run runs inductionHypothesis =>
      rcases reading.accept_run (areRuns run List.mem_cons_self) with ⟨next, readingNext, isNext⟩
      rcases inductionHypothesis readingNext fun other member =>
        areRuns other (List.mem_cons_of_mem run member) with ⟨longer, readingLonger, isLonger⟩
      rw [run_forM_cons]
      refine ⟨longer, readingLonger, fun other => ?_⟩
      rw [isLonger other, isNext other, String.toList_append, List.flatMap_cons, List.append_assoc]

theorem IsReading.accept_endTag (reading : c.IsReading id tag text) (endTag : Tag) :
    (accept (.endTag endTag)).run c = ((), afterText c) := by
  rw [accept_eq]
  rcases run_dropLineFeedBefore look (.endTag endTag) c with whole | ⟨⟨-, impossible⟩, -⟩
  · rw [whole, reading.withoutLineFeed.look_endTag]
    rfl
  · cases impossible

theorem IsReading.accept_endOfPage (reading : c.IsReading id tag text)
    (whole : IsCutOff tag.name text) : ((accept .endOfPage).run c).2.IsAtRest := by
  rw [accept_eq]
  rcases run_dropLineFeedBefore look .endOfPage c with same | ⟨⟨-, impossible⟩, -⟩
  · rw [same]
    exact reading.withoutLineFeed.look_endOfPage whole rfl
  · cases impossible

end Construction
end Markup
end Folio
