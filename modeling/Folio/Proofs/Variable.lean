import Folio.Proofs.Text.FrontReplacement
import Folio.Proofs.VariableScan

namespace Folio

open Markup

/-!
# What substitution writes

The text that substitution makes does not depend on what it reports, so it is told without the names
that have been seen and without offsets: known tokens are changed from left to right.  A token
consists of letters, digits, low lines and two percent signs; every other character therefore cuts a
text into pieces that are substituted one by one.  Markup is full of such characters, which is why
substitution changes what stands between them but not the markup itself.
-/

/-- Whether no token has a character in it. -/
def IsBreak (c : Char) : Prop := isVariableChar c = false ∧ c ≠ '%'

namespace VariableToken

/-- Whether a token is at the front of a text is settled before the first break. -/
theorem nameAtFront?_append_of_isBreak {c : Char} (isBreak : IsBreak c) (d : Char)
    (front back : List Char) :
    nameAtFront? (d :: (front ++ c :: back)) = nameAtFront? (d :: front) := by
  apply Option.ext
  intro name
  rw [nameAtFront?_eq_some_iff, nameAtFront?_eq_some_iff]
  constructor
  · rintro ⟨nonempty, letters, rest, equal⟩
    refine ⟨nonempty, letters, ?_⟩
    rcases List.cons.inj equal with ⟨rfl, tails⟩
    -- The token cannot reach the break, so it ends before it.
    rcases List.append_eq_append_iff.mp tails with
      ⟨behind, inName, after⟩ | ⟨rest', inFront, after⟩
    · cases behind with
      | nil => exact absurd (List.cons.inj after).1 isBreak.2
      | cons a behind =>
          have letter := letters a (by rw [inName]; simp)
          rw [← (List.cons.inj after).1, isBreak.1] at letter
          cases letter
    · cases rest' with
      | nil => exact absurd (List.cons.inj after).1.symm isBreak.2
      | cons a rest' =>
          rw [← (List.cons.inj after).1] at inFront
          exact ⟨rest', by rw [inFront]⟩
  · rintro ⟨nonempty, letters, rest, equal⟩
    refine ⟨nonempty, letters, rest ++ c :: back, ?_⟩
    rw [← List.cons_append, equal]
    simp

end VariableToken

namespace Variables

variable (vars : Variables)

/-- What stands for the token at the front of a text, if the table knows its name, and how long the
token is. -/
def valueAtFront? (cs : List Char) : Option (List Char × Nat) :=
  (VariableToken.nameAtFront? cs).bind fun name =>
    (vars.get? (String.ofList name)).map fun value => (value.toList, name.length + 2)

/-- A text with its known tokens replaced. -/
def written (cs : List Char) : List Char := replaceFronts vars.valueAtFront? 0 cs

theorem valueAtFront?_eq (cs : List Char) :
    vars.valueAtFront? cs = (vars.entryAtFront? cs).map fun entry =>
      (entry.2.toList, (VariableToken.spelled entry.1).length) := by
  cases found : vars.entryAtFront? cs with
  | some entry =>
      rcases vars.of_entryAtFront? found with ⟨atFront, known⟩
      rw [valueAtFront?, atFront, Option.bind_some, String.ofList_toList, known]
      simp [VariableToken.spelled]
  | none =>
      rw [valueAtFront?, Option.map_none, Option.bind_eq_none_iff]
      intro name atFront
      rw [Option.map_eq_none_iff, Option.eq_none_iff_forall_ne_some]
      intro value known
      rw [← String.toList_ofList (l := name)] at atFront
      cases found.symm.trans (vars.entryAtFront?_eq_some_iff.mpr ⟨atFront, known⟩)

/-- What the scanner writes is what the rule of known tokens makes of a text. -/
theorem flatMap_emitted_places (offset : Nat) (cs : List Char) :
    (vars.places offset cs).flatMap vars.emitted = vars.written cs := by
  fun_induction places vars offset cs with
  | case1 => rfl
  | case2 offset c rest behindToken behindCharacter =>
      have rule := vars.valueAtFront?_eq (c :: rest)
      rw [List.flatMap_cons, emitted, written]
      cases found : vars.entryAtFront? (c :: rest) with
      | some entry =>
          have positive : 0 < (VariableToken.spelled entry.1).length := Nat.succ_pos _
          rw [found, Option.map_some] at rule
          simp only
          rw [replaceFronts_of_some rule positive, behindToken, written]
      | none =>
          rw [found, Option.map_none] at rule
          simp only
          rw [replaceFronts_of_none rule, behindCharacter, written]
          rfl

theorem text_apply (text : String) : (vars.apply text).text = vars.written text.toList := by
  rw [text_apply_eq_scan, flatMap_emitted_places]

theorem value_substitute (text : String) :
    (vars.substitute text).value = String.ofList (vars.written text.toList) := by
  rw [← text_apply]
  rfl

/-- A character that is in no token ends all that substitution looks at. -/
theorem endsRule_of_isBreak {c : Char} (isBreak : IsBreak c) : EndsRule vars.valueAtFront? c where
  silent := by
    intro back
    rw [valueAtFront?, VariableToken.nameAtFront?_of_ne isBreak.2]
    rfl
  same := by
    intro d front back
    rw [valueAtFront?, valueAtFront?, VariableToken.nameAtFront?_append_of_isBreak isBreak]
  positive := by
    intro front text count found
    rcases Option.bind_eq_some_iff.mp found with ⟨name, -, known⟩
    rcases Option.map_eq_some_iff.mp known with ⟨value, -, equal⟩
    rw [← (Prod.mk.inj equal).2]
    exact Nat.succ_pos _
  fits := by
    intro front text count found
    rcases Option.bind_eq_some_iff.mp found with ⟨name, atFront, known⟩
    rcases Option.map_eq_some_iff.mp known with ⟨value, -, equal⟩
    rcases VariableToken.nameAtFront?_eq_some_iff.mp atFront with ⟨-, -, rest, rfl⟩
    rw [← (Prod.mk.inj equal).2]
    simp only [List.length_cons, List.length_append]
    omega

theorem written_append {c : Char} (isBreak : IsBreak c) (front back : List Char) :
    vars.written (front ++ c :: back) = vars.written front ++ c :: vars.written back :=
  (vars.endsRule_of_isBreak isBreak).replaceFronts_append front back

/-- A text can be cut in front of a character that is in no token. -/
theorem written_append_cons {c : Char} (isBreak : IsBreak c) (front back : List Char) :
    vars.written (front ++ c :: back) = vars.written front ++ vars.written (c :: back) := by
  have cut := vars.written_append isBreak [] back
  rw [vars.written_append isBreak]
  exact congrArg (vars.written front ++ ·) cut.symm

/-- A piece without percent signs is copied. -/
theorem written_append_of_no_percent {front : List Char} (plain : '%' ∉ front) (back : List Char) :
    vars.written (front ++ back) = front ++ vars.written back := by
  induction front with
  | nil => rfl
  | cons c front inductionHypothesis =>
      rw [List.mem_cons, not_or] at plain
      have silent : vars.valueAtFront? (c :: (front ++ back)) = none := by
        rw [valueAtFront?, VariableToken.nameAtFront?_of_ne (Ne.symm plain.1)]
        rfl
      have rest := inductionHypothesis plain.2
      rw [List.cons_append, written, replaceFronts_of_none silent, ← written, rest,
        List.cons_append]

/-- The token of a known name is replaced by its value, and what is behind it by itself. -/
theorem written_spelled_append {name value : String} (known : vars.get? name = some value)
    (back : List Char) :
    vars.written (VariableToken.spelled name ++ back) = value.toList ++ vars.written back := by
  have atFront :=
    VariableToken.nameAtFront?_spelled (vars.isVariableName_of_get? known) back
  have found := vars.entryAtFront?_eq_some_iff.mpr ⟨atFront, known⟩
  have rule := vars.valueAtFront?_eq (VariableToken.spelled name ++ back)
  rw [found, Option.map_some] at rule
  have positive : 0 < (VariableToken.spelled name).length := Nat.succ_pos _
  have begins : VariableToken.spelled name ++ back = '%' :: (name.toList ++ ['%'] ++ back) := rfl
  rw [written, begins, replaceFronts_of_some (begins ▸ rule) positive, ← begins, List.drop_left,
    written]

/-! ## Values of attributes -/

/-- Whether a text spells a token with a name that the table knows. -/
def SpellsKnown (cs : List Char) : Prop :=
  ∃ name value, vars.get? name = some value ∧ '%' :: (name.toList ++ ['%']) <:+: cs

end Variables

namespace Markup

/-- A character is copied into a value, or written as a reference. -/
theorem escapeValueChar_eq (c : Char) :
    escapeValueChar c = [c] ∨ ∃ rest, escapeValueChar c = '&' :: rest ∧ '%' ∉ rest := by
  unfold escapeValueChar escapeTextChar
  split
  · exact Or.inr ⟨"quot;".toList, rfl, by decide⟩
  · split
    · exact Or.inr ⟨"amp;".toList, rfl, by decide⟩
    · split
      · exact Or.inr ⟨"lt;".toList, rfl, by decide⟩
      · split
        · exact Or.inr ⟨"gt;".toList, rfl, by decide⟩
        · exact Or.inl rfl

theorem percent_not_mem_escapeValueChar {c : Char} (other : c ≠ '%') :
    '%' ∉ escapeValueChar c := by
  rcases escapeValueChar_eq c with copied | ⟨rest, escaped, plain⟩
  · rw [copied, List.mem_singleton]
    exact Ne.symm other
  · rw [escaped, List.mem_cons, not_or]
    exact ⟨by decide, plain⟩

/-- A front without escapes of an escaped value is the front of the value itself. -/
theorem exists_of_escapeValueList_eq_append {cs front back : List Char} (plain : '&' ∉ front)
    (equal : escapeValueList cs = front ++ back) :
    ∃ rest, cs = front ++ rest ∧ back = escapeValueList rest := by
  induction front generalizing cs with
  | nil => exact ⟨cs, rfl, equal.symm⟩
  | cons x front inductionHypothesis =>
      rw [List.mem_cons, not_or] at plain
      cases cs with
      | nil => cases equal
      | cons c cs =>
          have split : escapeValueList (c :: cs) = escapeValueChar c ++ escapeValueList cs := rfl
          rcases escapeValueChar_eq c with copied | ⟨rest, escaped, -⟩
          · rw [split, copied, List.singleton_append, List.cons_append] at equal
            rcases List.cons.inj equal with ⟨rfl, tails⟩
            rcases inductionHypothesis plain.2 tails with ⟨rest, inside, after⟩
            exact ⟨rest, by rw [inside, List.cons_append], after⟩
          · rw [split, escaped, List.cons_append, List.cons_append] at equal
            exact absurd (List.cons.inj equal).1 plain.1

end Markup

namespace Variables

variable (vars : Variables)

/-- Substitution leaves the value of an attribute alone if the value spells no known token. -/
theorem written_escapeValueList {cs : List Char} (unknown : ¬ vars.SpellsKnown cs) :
    vars.written (escapeValueList cs) = escapeValueList cs := by
  induction cs with
  | nil => rfl
  | cons c cs inductionHypothesis =>
      have later : ¬ vars.SpellsKnown cs := by
        rintro ⟨name, value, known, spelled⟩
        exact unknown ⟨name, value, known, spelled.trans (List.suffix_cons c cs).isInfix⟩
      have split : escapeValueList (c :: cs) = escapeValueChar c ++ escapeValueList cs := rfl
      rw [split]
      by_cases percent : c = '%'
      · subst percent
        have copied : escapeValueChar '%' = ['%'] := by decide
        rw [copied, List.singleton_append]
        -- A token of the escaped value would be one of the value, as names have no `&` in them.
        have silent : vars.valueAtFront? ('%' :: escapeValueList cs) = none := by
          rw [valueAtFront?, Option.bind_eq_none_iff]
          intro name atFront
          rcases VariableToken.nameAtFront?_eq_some_iff.mp atFront with
            ⟨-, letters, rest, equal⟩
          have plain : '&' ∉ name ++ ['%'] := by
            intro member
            rcases List.mem_append.mp member with inName | last
            · exact absurd (letters _ inName) (by decide)
            · exact absurd (List.mem_singleton.mp last) (by decide)
          have token : escapeValueList cs = (name ++ ['%']) ++ rest := by
            rw [(List.cons.inj equal).2, List.append_assoc, List.singleton_append]
          rcases exists_of_escapeValueList_eq_append plain token with ⟨rest', inside, -⟩
          rw [Option.map_eq_none_iff, Option.eq_none_iff_forall_not_mem]
          intro value known
          refine unknown ⟨String.ofList name, value, known, [], rest', ?_⟩
          rw [inside, String.toList_ofList]
          simp
        rw [written, replaceFronts_of_none silent, ← written, inductionHypothesis later]
      · rw [vars.written_append_of_no_percent (percent_not_mem_escapeValueChar percent),
          inductionHypothesis later]

end Variables

end Folio
