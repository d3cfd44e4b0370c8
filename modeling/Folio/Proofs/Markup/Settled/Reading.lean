import Folio.Proofs.Markup.Remainder
import Folio.Proofs.Markup.Settled.Text

namespace Folio
namespace Markup
namespace Construction

/-!
# Reading a page

Between two steps of reading a page, construction is at rest or stands in a text element, which is
empty or in front of its end tag.  So all text elements are complete when the page has been read, and
what one of them holds once it has been left it holds to the end.
-/

/-- A step of reading: the next tokens are read and accepted. -/
def next (c : Construction) (cs : List Char) : Construction × List Char :=
  (((readTokens c.textMode c.readsCharacterData cs).1.forM accept |>.run c).2,
    (readTokens c.textMode c.readsCharacterData cs).2)

/-- The states that reading a page from some state comes by, each with what is left of the page. -/
inductive Reads (start : Construction) (page : List Char) : Construction → List Char → Prop
  | start : Reads start page start page
  | next {c : Construction} {cs : List Char} (before : Reads start page c cs) (more : cs ≠ []) :
      Reads start page (next c cs).1 (next c cs).2

theorem reads_next (c : Construction) {cs : List Char} (more : cs ≠ []) :
    Reads c cs (next c cs).1 (next c cs).2 := Reads.start.next more

theorem Reads.trans {c₁ c₂ c₃ : Construction} {cs₁ cs₂ cs₃ : List Char} (first : Reads c₁ cs₁ c₂ cs₂)
    (second : Reads c₂ cs₂ c₃ cs₃) : Reads c₁ cs₁ c₃ cs₃ := by
  induction second with
  | start => exact first
  | next _ more inductionHypothesis => exact inductionHypothesis.next more

/-- What is left of a page is the end of it. -/
theorem Reads.suffix {start c : Construction} {page cs : List Char} (reads : Reads start page c cs) :
    cs <:+ page := by
  induction reads with
  | start => exact List.suffix_rfl
  | next _ _ inductionHypothesis =>
      exact ((suffix_readTokens _ _ _).trans (List.drop_suffix 1 _)).trans inductionHypothesis

theorem readAll_nil (steps : Nat) : readAll steps [] = accept .endOfPage := by
  cases steps with
  | zero => rfl
  | succ steps => exact if_pos rfl

theorem run_readAll_succ (steps : Nat) (c : Construction) {cs : List Char} (more : cs ≠ []) :
    (readAll (steps + 1) cs).run c = (readAll steps (next c cs).2).run (next c cs).1 := by
  have some : ¬ cs.isEmpty = true := fun empty => more (List.isEmpty_iff.mp empty)
  rw [readAll, if_neg some]
  rfl

/-- As many steps as a page has characters lead from any state that reading it comes by to the end. -/
theorem Reads.exists_readAll {start c : Construction} {page cs : List Char}
    (reads : Reads start page c cs) {steps : Nat} (enough : page.length ≤ steps) :
    ∃ left, cs.length ≤ left ∧ (readAll steps page).run start = (readAll left cs).run c := by
  induction reads with
  | start => exact ⟨steps, enough, rfl⟩
  | @next c cs _ more inductionHypothesis =>
      rcases inductionHypothesis with ⟨left, enoughLeft, same⟩
      have shorter : (Construction.next c cs).2.length < cs.length := length_readTokens_lt _ _ more
      rcases left with _ | left
      · omega
      · exact ⟨left, by omega, same.trans (run_readAll_succ left c more)⟩

/-- A page is read to its end. -/
theorem exists_reads_nil (start : Construction) (page : List Char) :
    ∃ c, Reads start page c [] := by
  have ends : ∀ length c cs, cs.length ≤ length → Reads start page c cs → ∃ c, Reads start page c [] := by
    intro length
    induction length with
    | zero =>
        intro c cs short reads
        rw [List.length_eq_zero_iff.mp (Nat.le_zero.mp short)] at reads
        exact ⟨c, reads⟩
    | succ length inductionHypothesis =>
        intro c cs short reads
        by_cases more : cs = []
        · exact ⟨c, more ▸ reads⟩
        · have shorter : (next c cs).2.length < cs.length := length_readTokens_lt _ _ more
          exact inductionHypothesis _ _ (by omega) (reads.next more)
  exact ends page.length start page (Nat.le_refl _) .start

/-- The end of the page is accepted when there is nothing left. -/
theorem exists_run_readAll (start : Construction) {page : List Char} {steps : Nat}
    (enough : page.length ≤ steps) :
    ∃ c, Reads start page c [] ∧ (readAll steps page).run start = (accept .endOfPage).run c := by
  rcases exists_reads_nil start page with ⟨c, reads⟩
  rcases reads.exists_readAll enough with ⟨left, -, same⟩
  exact ⟨c, reads, same.trans (by rw [readAll_nil])⟩

variable [Arena.FollowedTexts]

/-- What holds of construction in front of the rest of a page. -/
def Awaits (c : Construction) (cs : List Char) : Prop :=
  c.IsAtRest ∨ ∃ id tag text, c.IsReading id tag text ∧ IsCutOff tag.name text ∧
    (text = "" ∨ (cutText (textModeOf tag.name) cs).1 = [])

theorem HasOpened.awaits {c : Construction} {tag : Tag} (opened : c.HasOpened tag)
    (cs : List Char) : c.Awaits cs := by
  rcases opened with ⟨id, reading⟩
  exact Or.inr ⟨id, tag, "", reading, isCutOff_empty tag.name, Or.inl rfl⟩

theorem isAtRest_accept {c : Construction} (atRest : c.IsAtRest) {token : Token}
    (other : ∀ tag, token ≠ .startTag tag) : ((accept token).run c).2.IsAtRest := by
  rcases run_of_triple (accept_spec token) atRest with atRestNow | ⟨⟨tag, isStart⟩, -⟩
  · exact atRestNow
  · exact absurd isStart (other tag)

theorem isAtRest_forM_accept {c : Construction} (atRest : c.IsAtRest) {tokens : List Token}
    (others : ∀ tag, .startTag tag ∉ tokens) : ((tokens.forM accept).run c).2.IsAtRest := by
  induction tokens generalizing c with
  | nil => exact atRest
  | cons token tokens inductionHypothesis =>
      rw [run_forM_cons]
      apply inductionHypothesis
      · apply isAtRest_accept atRest
        rintro tag rfl
        exact others tag List.mem_cons_self
      · exact fun tag member => others tag (List.mem_cons_of_mem token member)

theorem IsAtRest.awaits_next {c : Construction} (atRest : c.IsAtRest) (cs : List Char) :
    (next c cs).1.Awaits (next c cs).2 := by
  rcases startsAlone_readTokens c.textMode c.readsCharacterData cs with ⟨tag, alone⟩ | others
  · rw [next, alone, run_forM_cons]
    rcases run_of_triple (accept_spec (.startTag tag)) atRest with atRestNow | ⟨-, tag, opened⟩
    · exact Or.inl atRestNow
    · exact opened.awaits _
  · exact Or.inl (isAtRest_forM_accept atRest others)

section Reading

variable {c : Construction} {id : Nat} {tag : Tag} {text : String}

/-- In front of the end tag construction leaves the text element, unless the page ends in the tag. -/
theorem IsReading.awaits_next_of_endTag (reading : c.IsReading id tag text)
    (whole : IsCutOff tag.name text) {cs : List Char}
    (follows : endTagFollows tag.name.toList cs = true) :
    (next c ('<' :: cs)).1.Awaits (next c ('<' :: cs)).2 := by
  have read : readTokens c.textMode c.readsCharacterData ('<' :: cs) = readMarkup false cs := by
    rw [reading.textMode, readTokens_of_cut (textModeOf_cuts tag.name), cutText_cons follows]
    rfl
  rw [next, read]
  rcases readMarkup_of_endTagFollows (isLowerName_of_mem_textTags reading.element) follows with
    ⟨endTag, isEndTag⟩ | cutOff
  · rw [isEndTag, run_forM_cons, reading.accept_endTag]
    exact Or.inl (reading.isSettled_afterText whole).isAtRest
  · rw [cutOff]
    exact Or.inr ⟨id, tag, text, reading, whole, Or.inr (by rw [cutText_nil])⟩

/-- An empty text element is given the text up to its end tag. -/
theorem IsReading.exists_next_of_text (reading : c.IsReading id tag "") {cs : List Char}
    (some : ¬ (cutText (textModeOf tag.name) cs).1 = []) :
    ∃ text, (next c cs).1.IsReading id tag text ∧
      (next c cs).2 = (cutText (textModeOf tag.name) cs).2 ∧
      (tag.name ≠ "textarea" → text.toList =
        (textRuns (readText (textModeOf tag.name) (cutText (textModeOf tag.name) cs).1)).flatMap
          fun run => run.runText.toList) := by
  have read : readTokens c.textMode c.readsCharacterData cs =
      (textRuns (readText (textModeOf tag.name) (cutText (textModeOf tag.name) cs).1),
        (cutText (textModeOf tag.name) cs).2) := by
    rw [reading.textMode, readTokens_of_cut (textModeOf_cuts tag.name), if_neg]
    exact fun empty => some (List.isEmpty_iff.mp empty)
  rw [next, read]
  rcases reading.accept_runs fun run member => isRun_of_mem_textRuns member with
    ⟨text, readingText, isText⟩
  exact ⟨text, readingText, rfl, isText⟩

theorem IsReading.awaits_next (reading : c.IsReading id tag text) (whole : IsCutOff tag.name text)
    {cs : List Char} (place : text = "" ∨ (cutText (textModeOf tag.name) cs).1 = [])
    (noReturn : '\r' ∉ cs) (more : cs ≠ []) : (next c cs).1.Awaits (next c cs).2 := by
  by_cases atEnd : (cutText (textModeOf tag.name) cs).1 = []
  · have isRest := (cutText_spec tag.name cs).1
    rw [atEnd, List.nil_append] at isRest
    rcases (cutText_spec tag.name cs).2 with pageEnds | ⟨rest, behind, follows⟩
    · exact absurd (isRest.symm.trans pageEnds) more
    · rw [← isRest, behind]
      exact reading.awaits_next_of_endTag whole follows
  · have empty : text = "" := place.resolve_right atEnd
    subst empty
    rcases reading.exists_next_of_text atEnd with ⟨longer, readingLonger, isRest, isText⟩
    refine Or.inr ⟨id, tag, longer, readingLonger, isCutOff_of_readText noReturn isText, Or.inr ?_⟩
    rw [isRest]
    exact cutText_snd tag.name cs

end Reading

theorem Awaits.next {c : Construction} {cs : List Char} (awaits : c.Awaits cs) (noReturn : '\r' ∉ cs)
    (more : cs ≠ []) : (next c cs).1.Awaits (next c cs).2 := by
  rcases awaits with atRest | ⟨id, tag, text, reading, whole, place⟩
  · exact atRest.awaits_next cs
  · exact reading.awaits_next whole place noReturn more

theorem Reads.awaits {start c : Construction} {page cs : List Char} (reads : Reads start page c cs)
    (awaits : start.Awaits page) (noReturn : '\r' ∉ page) : c.Awaits cs := by
  induction reads with
  | start => exact awaits
  | next before more inductionHypothesis =>
      exact inductionHypothesis.next (fun member => noReturn (before.suffix.subset member)) more

/-- Construction is at rest when the page has been read. -/
theorem isAtRest_readAll {start : Construction} {page : List Char} (awaits : start.Awaits page)
    (noReturn : '\r' ∉ page) {steps : Nat} (enough : page.length ≤ steps) :
    ((readAll steps page).run start).2.IsAtRest := by
  rcases exists_run_readAll start enough with ⟨c, reads, same⟩
  rw [same]
  rcases reads.awaits awaits noReturn with atRest | ⟨id, tag, text, reading, whole, -⟩
  · exact isAtRest_accept atRest fun _ => Token.noConfusion
  · exact reading.accept_endOfPage whole

/-! ## Texts that are read again -/

section Again

variable {c : Construction} {id : Nat} {tag : Tag} {text : String}

theorem IsReading.next_endTagText (reading : c.IsReading id tag text) (after : List Char) :
    next c (endTagText tag.name.toList ++ after) = (afterText c, after) := by
  have isName := isLowerName_of_mem_textTags reading.element
  have read : readTokens c.textMode c.readsCharacterData (endTagText tag.name.toList ++ after) =
      ([.endTag { name := String.ofList tag.name.toList }], after) := by
    have cut : cutText (textModeOf tag.name) (endTagText tag.name.toList ++ after) =
        ([], endTagText tag.name.toList ++ after) :=
      cutText_cons (endTagFollows_endTagText isName after)
    rw [reading.textMode, readTokens_of_cut (textModeOf_cuts tag.name), cut,
      ← readMarkup_endTagText isName after]
    rfl
  rw [next, read, run_forM_cons, reading.accept_endTag]
  rfl

/-- In front of a text that was cut off, and its end tag, an empty text element is given this text
and left. -/
theorem IsReading.exists_reads (reading : c.IsReading id tag "")
    (verbatim : tag.name ∈ verbatimTags) (whole : IsCutOff tag.name text)
    (outside : ¬ EndsNested tag.name text) (after : List Char) :
    ∃ left, Reads c (text.toList ++ (endTagText tag.name.toList ++ after)) left after ∧
      left.IsSettled ∧ left.arena.HasText id tag.name text := by
  have inFront : ∀ {c : Construction}, c.IsReading id tag text →
      ∃ left, Reads c (endTagText tag.name.toList ++ after) left after ∧
        left.IsSettled ∧ left.arena.HasText id tag.name text := by
    intro c reading
    have more : endTagText tag.name.toList ++ after ≠ [] := List.cons_ne_nil _ _
    have step := reads_next c more
    rw [reading.next_endTagText after] at step
    exact ⟨afterText c, step, reading.isSettled_afterText whole,
      ⟨reading.element, tag.attrs, reading.kind⟩, reading.holds⟩
  have cut := cutText_of_isCutOff verbatim whole outside
    (endTagFollows_endTagText (isLowerName_of_mem_textTags reading.element) after)
  by_cases empty : text = ""
  · subst empty
    exact inFront reading
  · have other : tag.name ≠ "textarea" := by
      intro same
      exact absurd (same ▸ verbatim) (by decide)
    have behind : endTagText tag.name.toList ++ after =
        '<' :: (endTagText tag.name.toList ++ after).drop 1 := rfl
    rw [← behind] at cut
    have some : ¬ (cutText (textModeOf tag.name)
        (text.toList ++ (endTagText tag.name.toList ++ after))).1 = [] := by
      rw [cut.1]
      exact fun none => empty (String.toList_eq_nil_iff.mp none)
    rcases reading.exists_next_of_text some with ⟨longer, readingLonger, isRest, isText⟩
    rw [cut.1] at isRest isText
    have same : longer = text := String.toList_injective ((isText other).trans cut.2)
    subst same
    rcases inFront readingLonger with ⟨left, reads, settled, has⟩
    have more : longer.toList ++ (endTagText tag.name.toList ++ after) ≠ [] :=
      fun none => List.cons_ne_nil _ _ (List.append_eq_nil_iff.mp none).2
    have step := reads_next c more
    rw [isRest] at step
    exact ⟨left, step.trans reads, settled, has⟩

end Again

/-- From any time between two text elements on all texts can be followed. -/
theorem IsSettled.followed {c : Construction} (settled : c.IsSettled) :
    @IsSettled ⟨c.arena.HasText⟩ c := by
  have sound := @IsSoundBut.mk ⟨c.arena.HasText⟩ c none settled.arena.follow settled.document
    settled.head settled.templates settled.formatting settled.savedMode settled.templateModes
    settled.pending
  exact @IsSettled.mk ⟨c.arena.HasText⟩ c sound settled.stack settled.mode settled.textMode
    settled.lineFeed

theorem IsSettled.hasText_readAll {c : Construction} (settled : c.IsSettled) {id : Nat}
    {name text : String} (has : c.arena.HasText id name text) {page : List Char}
    (noReturn : '\r' ∉ page) {steps : Nat} (enough : page.length ≤ steps) :
    ((readAll steps page).run c).2.arena.HasText id name text := by
  have atRest := @isAtRest_readAll ⟨c.arena.HasText⟩ c page
    (Or.inl (@IsSettled.isAtRest ⟨c.arena.HasText⟩ c settled.followed)) noReturn steps enough
  rcases atRest with ⟨⟨⟨-, -, followed⟩, -⟩, -⟩
  exact (followed id name text has).2

end Construction
end Markup
end Folio
