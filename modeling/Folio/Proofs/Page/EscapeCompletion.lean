import Folio.Proofs.Page.TagEscape

namespace Folio

/-!
# No token is left

The `<` that is escaped behind the opening of a token may have begun a tag, and that tag may have
been the opening of another token.  So a pass takes openings away, those of the other pass included.
It brings none about, though.  No opening has a character in it that a reference begins or ends
with, so what is found of it in an escaped text has stood in the source.  Hence a pass leaves none
of the tokens that it looks for, the second pass brings none back that the first has dealt with, and
a second run finds nothing to do.
-/

/-- A pattern with a `<` in it, and without the characters that a reference begins and ends with.
It stands neither in a reference nor across one end of it. -/
structure AvoidsReferences (pattern : List Char) : Prop where
  less : '<' ∈ pattern
  noAmpersand : '&' ∉ pattern
  noSemicolon : ';' ∉ pattern

namespace AvoidsReferences

variable {pattern front rest : List Char}

theorem ne_nil (avoids : AvoidsReferences pattern) : pattern ≠ [] :=
  List.ne_nil_of_mem avoids.less

/-- A text can be cut at a reference. -/
theorem infix_append_escapedLess_iff (avoids : AvoidsReferences pattern) :
    pattern <:+: front ++ (escapedLess ++ rest) ↔ pattern <:+: front ∨ pattern <:+: rest := by
  have spelled : front ++ (escapedLess ++ rest) = front ++ '&' :: ("lt".toList ++ ';' :: rest) :=
    rfl
  have notWithin : ¬ pattern <:+: "lt".toList :=
    fun found => absurd (found.subset avoids.less) (by decide)
  rw [spelled, infix_append_cons_iff avoids.ne_nil avoids.noAmpersand,
    infix_append_cons_iff avoids.ne_nil avoids.noSemicolon, or_iff_right notWithin]

end AvoidsReferences

/-- A pattern that is longer than the end of a text begins in front of that. -/
theorem exists_begins_of_infix_append {pattern front opening : List Char}
    (longer : opening.length < pattern.length) (found : pattern <:+: front ++ opening) :
    ∃ back, back ≠ [] ∧ back <:+ front ∧ pattern <+: back ++ opening := by
  rcases List.infix_iff_prefix_suffix.mp found with ⟨whole, begins, isEnd⟩
  have notShorter := begins.length_le
  rcases List.suffix_or_suffix_of_suffix isEnd (List.suffix_append front opening) with
    within | ⟨back, rfl⟩
  · have short := within.length_le
    omega
  · refine ⟨back, ?_, ((List.suffix_append_inj_of_length_eq rfl).mp isEnd).1, begins⟩
    rintro rfl
    rw [List.nil_append] at notShorter
    omega

/-- What stands in an escaped text stands in its source. -/
theorem EscapesTo.infix_of_infix {bare : List Char → List Char → Prop}
    {after before cs out pattern : List Char} (avoids : AvoidsReferences pattern)
    (escapes : EscapesTo bare after before cs out) :
    ∀ front, pattern <:+: front ++ out → pattern <:+: front ++ cs := by
  induction escapes with
  | nil => exact fun _ found => found
  | keep c _ inductionHypothesis =>
      intro front found
      rw [List.append_cons] at found ⊢
      exact inductionHypothesis (front ++ [c]) found
  | @escape _ cs _ _ _ inductionHypothesis =>
      intro front found
      rcases avoids.infix_append_escapedLess_iff.mp found with inFront | behind
      · exact inFront.trans (List.prefix_append front _).isInfix
      · have inSource := inductionHypothesis [] behind
        exact inSource.trans ((List.suffix_cons '<' cs).trans (List.suffix_append front _)).isInfix

namespace TokenRule

variable {rule : List Char → Option (List Char × Nat)} {opening pattern : List Char}
  {follows : List Char → Prop}

/-- A pattern that begins nowhere in `front` stands nowhere in what a pass makes of the text behind
`front`, if the rule fires at every place where the pattern begins. -/
theorem not_infix_append_replaceFronts (isRule : TokenRule rule opening follows)
    (avoids : AvoidsReferences pattern) (longer : opening.length < pattern.length)
    (fires : ∀ cs, pattern <+: cs → rule cs ≠ none) : ∀ cs front,
      (∀ back, back ≠ [] → back <:+ front → ¬ pattern <+: back ++ cs) →
        ¬ pattern <:+: front ++ replaceFronts rule 0 cs
  | [], front, nowhere => by
      intro found
      have positive : ([] : List Char).length < pattern.length :=
        List.length_pos_iff.mpr avoids.ne_nil
      rcases exists_begins_of_infix_append positive found with ⟨back, nonempty, isEnd, begins⟩
      exact nowhere back nonempty isEnd begins
  | c :: cs, front, nowhere => by
      cases found : rule (c :: cs) with
      | none =>
          rw [replaceFronts_of_none found, List.append_cons]
          apply isRule.not_infix_append_replaceFronts avoids longer fires cs (front ++ [c])
          intro back nonempty isEnd begins
          rcases List.suffix_concat_iff.mp isEnd with rfl | ⟨earlier, rfl, inFront⟩
          · exact nonempty rfl
          · rw [← List.append_cons] at begins
            by_cases atPlace : earlier = []
            · subst atPlace
              exact fires _ begins found
            · exact nowhere earlier atPlace inFront begins
      | some result =>
          rcases isRule.exists_replaceFronts_eq found with ⟨rest, whole, -, written⟩
          rw [written, ← List.append_assoc, avoids.infix_append_escapedLess_iff]
          rintro (inFront | behind)
          · rcases exists_begins_of_infix_append longer inFront with
              ⟨back, nonempty, isEnd, begins⟩
            refine nowhere back nonempty isEnd (begins.trans ?_)
            rw [whole, ← List.append_assoc]
            exact List.prefix_append _ _
          · refine isRule.not_infix_append_replaceFronts avoids longer fires rest [] ?_ behind
            intro back nonempty isEnd
            exact absurd (List.suffix_nil.mp isEnd) nonempty
termination_by cs => cs.length
decreasing_by
  · simp
  · rw [whole]; simp; omega

/-- No pattern at which the rule fires is left when a pass has gone over a text. -/
theorem not_infix_replaceFronts (isRule : TokenRule rule opening follows)
    (avoids : AvoidsReferences pattern) (longer : opening.length < pattern.length)
    (fires : ∀ cs, pattern <+: cs → rule cs ≠ none) (cs : List Char) :
    ¬ pattern <:+: replaceFronts rule 0 cs := by
  refine isRule.not_infix_append_replaceFronts avoids longer fires cs [] ?_
  intro back nonempty isEnd
  exact absurd (List.suffix_nil.mp isEnd) nonempty

end TokenRule

/-- The second pass brings no punctuation token back that the first has dealt with. -/
theorem not_infix_escapeTokens_of_punctuation {pattern : List Char}
    (avoids : AvoidsReferences pattern) (longer : punctuationStart.length < pattern.length)
    (fires : ∀ cs, pattern <+: cs → escapePunctuation cs ≠ none) (s : String) :
    ¬ pattern <:+: (escapeTokens s).toList := by
  rw [escapeTokens, String.toList_ofList]
  intro found
  have second := tokenRule_escapeDoctype.escapesTo
    (replaceFronts escapePunctuation 0 s.toList) []
  exact tokenRule_escapePunctuation.not_infix_replaceFronts avoids longer fires s.toList
    (second.infix_of_infix avoids [] found)

theorem not_infix_escapeTokens (s : String) :
    ¬ doctypeStart ++ ['<'] <:+: (escapeTokens s).toList ∧
      ¬ punctuationStart ++ "<</span>".toList <:+: (escapeTokens s).toList ∧
      ¬ punctuationStart ++ "</</span>".toList <:+: (escapeTokens s).toList := by
  refine ⟨?_, ?_, ?_⟩
  · rw [escapeTokens, String.toList_ofList]
    refine tokenRule_escapeDoctype.not_infix_replaceFronts
      ⟨by decide, by decide, by decide⟩ (by decide) ?_ _
    exact fun cs begins silent => escapeDoctype_eq_none_iff.mp silent begins
  · refine not_infix_escapeTokens_of_punctuation
      ⟨by decide, by decide, by decide⟩ (by decide) ?_ s
    exact fun cs begins silent => (escapePunctuation_eq_none_iff.mp silent).1 begins
  · refine not_infix_escapeTokens_of_punctuation
      ⟨by decide, by decide, by decide⟩ (by decide) ?_ s
    exact fun cs begins silent => (escapePunctuation_eq_none_iff.mp silent).2 begins

/-- Escaping tokens is complete: in the result stands none of the tokens that are looked for, so
doing it again changes nothing, and the result is the text itself with some bare `<` written as
references. -/
theorem escapeTokens_complete (s : String) :
    (¬ doctypeStart ++ ['<'] <:+: (escapeTokens s).toList ∧
        ¬ punctuationStart ++ "<</span>".toList <:+: (escapeTokens s).toList ∧
        ¬ punctuationStart ++ "</</span>".toList <:+: (escapeTokens s).toList) ∧
      escapeTokens (escapeTokens s) = escapeTokens s ∧
      EscapesTo IsBareLess [] [] s.toList (escapeTokens s).toList :=
  ⟨not_infix_escapeTokens s, (escapeTokens_eq_self_iff _).mpr (not_infix_escapeTokens s),
    escapesTo_escapeTokens s⟩

/-- The `<` behind the first opening begins the next one, which is gone when it has been escaped. -/
example :
    escapeTokens ("<span class=\"token doctype\"><span class=\"token doctype\">" ++
        "<span class=\"token punctuation\"></</span>") =
      "<span class=\"token doctype\">&lt;span class=\"token doctype\">" ++
        "<span class=\"token punctuation\">&lt;/</span>" := by
  decide +kernel

end Folio
