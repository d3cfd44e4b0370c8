import Folio.Page.CodeBlock

namespace Folio

/-!
# Changing a text from left to right

A rule says what stands for the front of a text and how many characters that takes the place of.
The characters that a replacement has passed over are the ones that it drops, so a run is told
without counting: it goes on with what is left of the text.

Some characters end everything that a rule looks at.  A text can be cut at such a character, and the
pieces changed one by one.
-/

section Rules

variable {rule : List Char → Option (List Char × Nat)}

/-- Passing over characters is dropping them. -/
theorem replaceFronts_eq_drop (skip : Nat) (cs : List Char) :
    replaceFronts rule skip cs = replaceFronts rule 0 (cs.drop skip) := by
  induction cs generalizing skip with
  | nil => rw [List.drop_nil]; cases skip <;> rfl
  | cons c cs inductionHypothesis =>
      cases skip with
      | zero => rfl
      | succ skip => rw [replaceFronts, inductionHypothesis, List.drop_succ_cons]

theorem replaceFronts_of_none {c : Char} {cs : List Char} (silent : rule (c :: cs) = none) :
    replaceFronts rule 0 (c :: cs) = c :: replaceFronts rule 0 cs := by
  rw [replaceFronts, silent]

theorem replaceFronts_of_some {c : Char} {cs text : List Char} {count : Nat}
    (fires : rule (c :: cs) = some (text, count)) (positive : 0 < count) :
    replaceFronts rule 0 (c :: cs) = text ++ replaceFronts rule 0 ((c :: cs).drop count) := by
  rw [replaceFronts, fires]
  simp only
  rw [replaceFronts_eq_drop, ← List.drop_succ_cons (a := c), Nat.sub_add_cancel positive]

/-- A text at no place of which the rule fires stays as it is. -/
theorem replaceFronts_of_silent {cs : List Char}
    (silent : ∀ c rest, c :: rest <:+ cs → rule (c :: rest) = none) :
    replaceFronts rule 0 cs = cs := by
  induction cs with
  | nil => rfl
  | cons c cs inductionHypothesis =>
      rw [replaceFronts_of_none (silent c cs (List.suffix_refl _)), inductionHypothesis]
      intro c' rest isSuffix
      exact silent c' rest (isSuffix.trans (List.suffix_cons c cs))

/-- A character that ends all that a rule looks at: at the front of a text the rule sees the same
whether the text ends before that character or not, and at the character itself it is silent. -/
structure EndsRule (rule : List Char → Option (List Char × Nat)) (c : Char) : Prop where
  silent : ∀ back, rule (c :: back) = none
  same : ∀ d front back, rule (d :: (front ++ c :: back)) = rule (d :: front)
  positive : ∀ front text count, rule front = some (text, count) → 0 < count
  fits : ∀ front text count, rule front = some (text, count) → count ≤ front.length

/-- A text can be cut at a character that ends a rule. -/
theorem EndsRule.replaceFronts_append {c : Char} (ends : EndsRule rule c)
    (front back : List Char) :
    replaceFronts rule 0 (front ++ c :: back) =
      replaceFronts rule 0 front ++ c :: replaceFronts rule 0 back := by
  cases front with
  | nil => exact replaceFronts_of_none (ends.silent back)
  | cons d front =>
      have same := ends.same d front back
      cases fires : rule (d :: front) with
      | none =>
          rw [List.cons_append, replaceFronts_of_none (same.trans fires),
            replaceFronts_of_none fires, ends.replaceFronts_append front back, List.cons_append]
      | some result =>
          have positive := ends.positive _ _ _ fires
          have fits := ends.fits _ _ _ fires
          rw [List.cons_append, replaceFronts_of_some (same.trans fires) positive,
            replaceFronts_of_some fires positive, ← List.cons_append,
            List.drop_append_of_le_length fits,
            ends.replaceFronts_append ((d :: front).drop result.2) back, List.append_assoc]
termination_by front.length
decreasing_by
  · simp
  · simp only [List.length_drop, List.length_cons]; omega

end Rules

end Folio
