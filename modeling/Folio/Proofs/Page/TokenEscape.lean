import Folio.Proofs.Text.FrontReplacement

namespace Folio

/-!
# What the escape of tokens does to a page

Two passes over the printed page write the `<` that highlighters leave bare as a reference.  Taken
together they copy every character but some `<`, and those are told by what stands around them in
the print: right before them the opening of a document type token, or the opening of a punctuation
token that holds nothing but the beginning of a tag.  A text in which neither stands is left alone,
and no other: a pass that fires makes the text longer, and no pass makes it shorter again.
-/

/-- What may become of a stretch of text between `before` and `after` when some `<` are written as
references: those for which `bare` holds of the texts before and after them. -/
inductive EscapesTo (bare : List Char → List Char → Prop) (after : List Char) :
    (before : List Char) → List Char → List Char → Prop where
  | nil {before : List Char} : EscapesTo bare after before [] []
  | keep {before cs out : List Char} (c : Char) :
      EscapesTo bare after (before ++ [c]) cs out → EscapesTo bare after before (c :: cs) (c :: out)
  | escape {before cs out : List Char} :
      bare before (cs ++ after) → EscapesTo bare after (before ++ ['<']) cs out →
        EscapesTo bare after before ('<' :: cs) (escapedLess ++ out)

namespace EscapesTo

variable {bare : List Char → List Char → Prop} {after before : List Char}

/-- What stands in front may be copied. -/
theorem keep_append {cs out : List Char} (front : List Char)
    (rest : EscapesTo bare after (before ++ front) cs out) :
    EscapesTo bare after before (front ++ cs) (front ++ out) := by
  induction front generalizing before with
  | nil => rwa [List.append_nil] at rest
  | cons c front inductionHypothesis =>
      apply keep
      apply inductionHypothesis
      rwa [List.append_assoc]

/-- A stretch can be cut into two. -/
theorem of_append {front back out : List Char}
    (whole : EscapesTo bare after before (front ++ back) out) :
    ∃ out₁ out₂, out = out₁ ++ out₂ ∧ EscapesTo bare (back ++ after) before front out₁ ∧
      EscapesTo bare after (before ++ front) back out₂ := by
  induction front generalizing before out with
  | nil => exact ⟨[], out, rfl, nil, by rwa [List.append_nil]⟩
  | cons c front inductionHypothesis =>
      cases whole with
      | keep _ rest =>
          rcases inductionHypothesis rest with ⟨out₁, out₂, rfl, first, second⟩
          refine ⟨c :: out₁, out₂, rfl, keep c first, ?_⟩
          rwa [List.append_assoc] at second
      | escape isBare rest =>
          rcases inductionHypothesis rest with ⟨out₁, out₂, rfl, first, second⟩
          refine ⟨escapedLess ++ out₁, out₂, (List.append_assoc _ _ _).symm,
            escape (by rw [← List.append_assoc]; exact isBare) first, ?_⟩
          rwa [List.append_assoc] at second

/-- A stretch without `<` is copied. -/
theorem eq_of_no_less {cs out : List Char} (plain : '<' ∉ cs)
    (escapes : EscapesTo bare after before cs out) : out = cs := by
  induction escapes with
  | nil => rfl
  | keep c _ inductionHypothesis =>
      rw [List.mem_cons, not_or] at plain
      rw [inductionHypothesis plain.2]
  | escape _ _ _ => exact absurd List.mem_cons_self plain

end EscapesTo

/-- A rule that writes the `<` behind a fixed opening as a reference, if what follows is right. -/
structure TokenRule (rule : List Char → Option (List Char × Nat)) (opening : List Char)
    (follows : List Char → Prop) : Prop where
  fires : ∀ cs text count, rule cs = some (text, count) → ∃ rest, cs = opening ++ '<' :: rest ∧
    text = opening ++ escapedLess ∧ count = opening.length + 1 ∧ follows rest

namespace TokenRule

variable {rule : List Char → Option (List Char × Nat)} {opening : List Char}
  {follows : List Char → Prop}

/-- Where a rule fires it writes a reference for the `<` and goes on behind it. -/
theorem exists_replaceFronts_eq (isRule : TokenRule rule opening follows) {c : Char}
    {cs : List Char} {result : List Char × Nat} (found : rule (c :: cs) = some result) :
    ∃ rest, c :: cs = opening ++ '<' :: rest ∧ follows rest ∧
      replaceFronts rule 0 (c :: cs) = opening ++ (escapedLess ++ replaceFronts rule 0 rest) := by
  rcases isRule.fires _ _ _ found with ⟨rest, whole, text, count, right⟩
  have dropped : (opening ++ '<' :: rest).drop (opening.length + 1) = rest := by
    simp [List.drop_append]
  refine ⟨rest, whole, right, ?_⟩
  rw [replaceFronts_of_some found (by rw [count]; exact Nat.succ_pos _), whole, text, count,
    dropped, List.append_assoc]

theorem escapesTo (isRule : TokenRule rule opening follows) :
    ∀ cs before, EscapesTo (fun before after => opening <:+ before ∧ follows after) [] before cs
      (replaceFronts rule 0 cs)
  | [], _ => EscapesTo.nil
  | c :: cs, before => by
      cases found : rule (c :: cs) with
      | none =>
          rw [replaceFronts_of_none found]
          exact EscapesTo.keep c (isRule.escapesTo cs _)
      | some result =>
          rcases isRule.exists_replaceFronts_eq found with ⟨rest, whole, right, written⟩
          rw [written, whole]
          apply EscapesTo.keep_append
          refine EscapesTo.escape ⟨List.suffix_append _ _, by rwa [List.append_nil]⟩ ?_
          exact isRule.escapesTo rest _
termination_by cs => cs.length
decreasing_by
  · simp
  · rw [whole]; simp; omega

/-- A pass makes no text shorter. -/
theorem length_le (isRule : TokenRule rule opening follows) :
    ∀ cs, cs.length ≤ (replaceFronts rule 0 cs).length
  | [] => Nat.zero_le _
  | c :: cs => by
      cases found : rule (c :: cs) with
      | none =>
          rw [replaceFronts_of_none found]
          exact Nat.succ_le_succ (isRule.length_le cs)
      | some result =>
          rcases isRule.exists_replaceFronts_eq found with ⟨rest, whole, -, written⟩
          have later := isRule.length_le rest
          have reference : escapedLess.length = 4 := rfl
          rw [written, whole]
          simp only [List.length_append, List.length_cons, reference]
          omega
termination_by cs => cs.length
decreasing_by
  · simp
  · rw [whole]; simp; omega

/-- A pass that makes a text no longer has fired at no place of it. -/
theorem silent_of_length_le (isRule : TokenRule rule opening follows) {cs : List Char}
    (short : (replaceFronts rule 0 cs).length ≤ cs.length) :
    ∀ c rest, c :: rest <:+ cs → rule (c :: rest) = none := by
  induction cs with
  | nil => intro c rest isSuffix; cases List.suffix_nil.mp isSuffix
  | cons d cs inductionHypothesis =>
      cases found : rule (d :: cs) with
      | none =>
          rw [replaceFronts_of_none found] at short
          intro c rest isSuffix
          rcases List.suffix_cons_iff.mp isSuffix with whole | later
          · rwa [whole]
          · exact inductionHypothesis (Nat.le_of_succ_le_succ short) c rest later
      | some result =>
          rcases isRule.exists_replaceFronts_eq found with ⟨rest, whole, -, written⟩
          have later := isRule.length_le rest
          have reference : escapedLess.length = 4 := rfl
          rw [written, whole] at short
          simp only [List.length_append, List.length_cons, reference] at short
          omega

end TokenRule

theorem isSome_dropFront?_iff {pattern cs : List Char} :
    (Text.dropFront? pattern cs).isSome = true ↔ pattern <+: cs := by
  rw [Option.isSome_iff_exists]
  exact exists_congr fun rest => Text.dropFront?_eq_some_iff.trans eq_comm

theorem tokenRule_escapePunctuation :
    TokenRule escapePunctuation punctuationStart
      (fun rest => "</span>".toList <+: rest ∨ "/</span>".toList <+: rest) where
  fires := by
    intro cs text count found
    unfold escapePunctuation at found
    simp only [Bool.or_eq_true] at found
    split at found
    · next holds =>
        rcases Prod.mk.inj (Option.some.inj found) with ⟨sameText, sameCount⟩
        rcases holds with less | lessSlash
        · rcases isSome_dropFront?_iff.mp less with ⟨rest, rfl⟩
          refine ⟨"</span>".toList ++ rest, ?_, sameText.symm, sameCount.symm,
            Or.inl (List.prefix_append _ _)⟩
          rw [List.append_assoc, List.append_assoc]
          rfl
        · rcases isSome_dropFront?_iff.mp lessSlash with ⟨rest, rfl⟩
          refine ⟨"/</span>".toList ++ rest, ?_, sameText.symm, sameCount.symm,
            Or.inr (List.prefix_append _ _)⟩
          rw [List.append_assoc, List.append_assoc]
          rfl
    · cases found

theorem tokenRule_escapeDoctype : TokenRule escapeDoctype doctypeStart (fun _ => True) where
  fires := by
    intro cs text count found
    unfold escapeDoctype at found
    split at found
    · next holds =>
        rcases Prod.mk.inj (Option.some.inj found) with ⟨sameText, sameCount⟩
        rcases isSome_dropFront?_iff.mp holds with ⟨rest, rfl⟩
        refine ⟨rest, ?_, sameText.symm, sameCount.symm, trivial⟩
        rw [List.append_assoc]
        rfl
    · cases found

/-! ## Both passes -/

/-- Whether a `<` with these texts before and after it is one that highlighters leave bare. -/
def IsBareLess (before after : List Char) : Prop :=
  doctypeStart <:+ before ∨
    (punctuationStart <:+ before ∧ ("</span>".toList <+: after ∨ "/</span>".toList <+: after))

/-- Every end of `second` without a `;` is an end of `first`.  An escaped text has that relation to
its source, since a reference ends with that sign. -/
def KeepsEnds (first second : List Char) : Prop :=
  ∀ pattern, ';' ∉ pattern → pattern <:+ second → pattern <:+ first

theorem KeepsEnds.concat {first second : List Char} (keeps : KeepsEnds first second) (c : Char) :
    KeepsEnds (first ++ [c]) (second ++ [c]) := by
  intro pattern noReference isEnd
  rcases List.suffix_concat_iff.mp isEnd with rfl | ⟨front, rfl, below⟩
  · exact List.nil_suffix
  · have plain : ';' ∉ front := fun member => noReference (List.mem_append_left _ member)
    exact List.suffix_concat_iff.mpr (Or.inr ⟨front, rfl, keeps front plain below⟩)

theorem KeepsEnds.reference (first second rest : List Char) :
    KeepsEnds first (second ++ (rest ++ [';'])) := by
  intro pattern noReference isEnd
  rw [← List.append_assoc] at isEnd
  rcases List.suffix_concat_iff.mp isEnd with rfl | ⟨front, rfl, -⟩
  · exact List.nil_suffix
  · exact absurd (List.mem_append_right front (List.mem_singleton.mpr rfl)) noReference

/-- A pass over an escaped text that looks for an opening before a `<` finds only such openings as
are in the source. -/
theorem EscapesTo.trans {bare : List Char → List Char → Prop} {after before cs mid : List Char}
    {opening : List Char} (noReference : ';' ∉ opening)
    (first : EscapesTo bare after before cs mid) :
    ∀ {before' after' out : List Char}, KeepsEnds before before' →
      EscapesTo (fun b _ => opening <:+ b ∧ True) after' before' mid out →
        EscapesTo (fun b a => opening <:+ b ∨ bare b a) after before cs out := by
  induction first with
  | nil =>
      intro before' after' out _ second
      cases second
      exact EscapesTo.nil
  | keep c _ inductionHypothesis =>
      intro before' after' out keeps second
      cases second with
      | keep _ rest => exact EscapesTo.keep c (inductionHypothesis (keeps.concat c) rest)
      | escape isBare rest =>
          exact EscapesTo.escape (Or.inl (keeps opening noReference isBare.1))
            (inductionHypothesis (keeps.concat '<') rest)
  | escape isBare _ inductionHypothesis =>
      intro before' after' out keeps second
      -- The second pass copies the reference that the first has written.
      rcases second.of_append with ⟨out₁, out₂, rfl, copied, rest⟩
      rw [copied.eq_of_no_less (by decide)]
      exact EscapesTo.escape (Or.inr isBare)
        (inductionHypothesis (KeepsEnds.reference _ _ "&lt".toList) rest)

/-- Escaping tokens writes bare `<` as references and copies everything else. -/
theorem escapesTo_escapeTokens (markup : String) :
    EscapesTo IsBareLess [] [] markup.toList (escapeTokens markup).toList := by
  rw [escapeTokens, String.toList_ofList]
  have first := tokenRule_escapePunctuation.escapesTo markup.toList []
  have second := tokenRule_escapeDoctype.escapesTo
    (replaceFronts escapePunctuation 0 markup.toList) []
  exact first.trans (by decide) (fun _ _ isEnd => isEnd) second

theorem escapeDoctype_eq_none_iff {cs : List Char} :
    escapeDoctype cs = none ↔ ¬ doctypeStart ++ ['<'] <+: cs := by
  rw [escapeDoctype, ← isSome_dropFront?_iff]
  split
  · next holds => exact iff_of_false (by simp) (not_not_intro holds)
  · next fails => exact iff_of_true rfl fails

theorem escapePunctuation_eq_none_iff {cs : List Char} :
    escapePunctuation cs = none ↔ ¬ punctuationStart ++ "<</span>".toList <+: cs ∧
      ¬ punctuationStart ++ "</</span>".toList <+: cs := by
  have less : punctuationStart ++ "<</span>".toList =
      punctuationStart ++ "<".toList ++ "</span>".toList := rfl
  have lessSlash : punctuationStart ++ "</</span>".toList =
      punctuationStart ++ "</".toList ++ "</span>".toList := rfl
  rw [escapePunctuation, less, lessSlash, ← not_or, ← isSome_dropFront?_iff,
    ← isSome_dropFront?_iff, ← Bool.or_eq_true]
  simp only
  split
  · next holds => exact iff_of_false (by simp) (not_not_intro holds)
  · next fails => exact iff_of_true rfl fails

theorem not_infix_iff {pattern cs : List Char} (nonempty : pattern ≠ []) :
    ¬ pattern <:+: cs ↔ ∀ c rest, c :: rest <:+ cs → ¬ pattern <+: c :: rest := by
  rw [List.infix_iff_prefix_suffix]
  constructor
  · intro absent c rest isSuffix isPrefix
    exact absent ⟨c :: rest, isPrefix, isSuffix⟩
  · rintro absent ⟨_ | ⟨c, rest⟩, isPrefix, isSuffix⟩
    · exact nonempty (List.prefix_nil.mp isPrefix)
    · exact absent c rest isSuffix isPrefix

/-- Escaping tokens leaves a text alone if and only if none of them stands in it: no opening of a
document type token with a `<` behind it, and no whole punctuation token with the beginning of a
tag. -/
theorem escapeTokens_eq_self_iff (s : String) :
    escapeTokens s = s ↔ ¬ doctypeStart ++ ['<'] <:+: s.toList ∧
      ¬ punctuationStart ++ "<</span>".toList <:+: s.toList ∧
      ¬ punctuationStart ++ "</</span>".toList <:+: s.toList := by
  rw [not_infix_iff (by decide), not_infix_iff (by decide), not_infix_iff (by decide)]
  constructor
  · intro same
    have whole : replaceFronts escapeDoctype 0 (replaceFronts escapePunctuation 0 s.toList) =
        s.toList := by
      rw [← String.toList_ofList (l := replaceFronts _ _ _), ← escapeTokens, same]
    -- Neither pass makes a text shorter, so the first has not made it longer either.
    have longer := tokenRule_escapeDoctype.length_le (replaceFronts escapePunctuation 0 s.toList)
    rw [whole] at longer
    have first := tokenRule_escapePunctuation.silent_of_length_le longer
    rw [replaceFronts_of_silent first] at whole
    have second := tokenRule_escapeDoctype.silent_of_length_le (Nat.le_of_eq (congrArg _ whole))
    refine ⟨fun c rest isSuffix => escapeDoctype_eq_none_iff.mp (second c rest isSuffix),
      fun c rest isSuffix => (escapePunctuation_eq_none_iff.mp (first c rest isSuffix)).1,
      fun c rest isSuffix => (escapePunctuation_eq_none_iff.mp (first c rest isSuffix)).2⟩
  · rintro ⟨noDoctype, noLess, noLessSlash⟩
    have first := replaceFronts_of_silent fun c rest isSuffix => escapePunctuation_eq_none_iff.mpr
      ⟨noLess c rest isSuffix, noLessSlash c rest isSuffix⟩
    have second := replaceFronts_of_silent fun c rest isSuffix =>
      escapeDoctype_eq_none_iff.mpr (noDoctype c rest isSuffix)
    rw [escapeTokens, first, second, String.ofList_toList]

end Folio
