import Folio.Proofs.Config.Layer
import Folio.Proofs.Variable

namespace Folio

/-!
# Configured variables

A configuration comes about by files that are laid over it and by overrides.  Overrides are applied
up to the first that is refused, and that one says nothing about any key.  So a variable is
configured if a file or an override that was applied gives it a value, and has the value that was
given to it last.

The name of a configured variable has letters, digits and low lines in it only.  It has a token, and
wherever the token stands behind a text without percent signs, substitution replaces it.
-/

namespace Config

/-- Whether an override is applied and not refused, which no configuration has a part in. -/
def isApplicable (text : String) : Bool := (({} : Config).applyOverride text).isOk

/-- The overrides of a list that are applied: those in front of the first that is refused. -/
def appliedOverrides (texts : List String) : List String := texts.takeWhile isApplicable

theorem isOk_applyOverride (c : Config) (text : String) :
    (c.applyOverride text).isOk = isApplicable text := by
  have succeeds : ∀ c : Config, (c.applyOverride text).isOk = true ↔
      ∃ c', c.applyOverride text = .ok c' := by
    intro c
    cases c.applyOverride text <;> simp [Except.isOk, Except.toBool]
  rw [isApplicable, Bool.eq_iff_iff, succeeds, succeeds, exists_applyOverride_eq_ok_iff,
    exists_applyOverride_eq_ok_iff]

/-- Whether the last of the overrides is refused or not, those in front of it stay applied. -/
theorem valueAt_applyOverrides (c : Config) (texts : List String) (k : ConfigKey) :
    (c.applyOverrides texts).1.valueAt k =
      (lastSaid? (overrideSays? · k) (appliedOverrides texts)).getD (c.valueAt k) := by
  induction texts generalizing c with
  | nil => rfl
  | cons text texts inductionHypothesis =>
      have outcome := c.isOk_applyOverride text
      rw [appliedOverrides]
      cases applied : c.applyOverride text with
      | ok c' =>
          rw [applied] at outcome
          rw [applyOverrides_cons_of_ok applied, List.takeWhile_cons_of_pos outcome.symm,
            ← appliedOverrides, lastSaid?_cons, Option.getD_or,
            ← valueAt_of_applyOverride_eq_ok applied]
          exact inductionHypothesis c'
      | error e =>
          rw [applied] at outcome
          rw [applyOverrides_cons_of_error applied,
            List.takeWhile_cons_of_neg (ne_true_of_eq_false outcome.symm)]
          rfl

end Config

/-- What a configuration is changed by. -/
inductive ConfigChange where
  | merge (file : ConfigFile)
  /-- Overrides, some of which may be refused. -/
  | overrides (texts : List String)

namespace ConfigChange

def applyTo (c : Config) : ConfigChange → Config
  | merge file => c.merge file
  | overrides texts => (c.applyOverrides texts).1

/-- The configuration that changes make of the one that holds when nothing is said. -/
def run (changes : List ConfigChange) : Config := changes.foldl applyTo {}

/-- What a change sets a variable to, if it sets it. -/
def says? (name : String) : ConfigChange → Option (Option String)
  | merge file => file.says? (.valueOf name)
  | overrides texts =>
    lastSaid? (overrideSays? · (.valueOf name)) (Config.appliedOverrides texts)

/-- A change gives a variable the value that it says, or leaves it the one that it has. -/
theorem get?_vars_applyTo (c : Config) (change : ConfigChange) (name : String) :
    (change.applyTo c).vars.get? name = (change.says? name).getD (c.vars.get? name) := by
  cases change with
  | merge file =>
      change (c.vars.merge file.vars).get? name = ((file.vars.get? name).map some).getD _
      rw [Variables.get?_merge]
      cases file.vars.get? name <;> rfl
  | overrides texts => exact c.valueAt_applyOverrides texts (.valueOf name)

theorem get?_vars_foldl_applyTo (c : Config) (changes : List ConfigChange) (name : String) :
    (changes.foldl applyTo c).vars.get? name =
      (lastSaid? (says? name) changes).getD (c.vars.get? name) :=
  foldl_eq_lastSaid? (fun c => c.vars.get? name)
    (fun c change => get?_vars_applyTo c change name) c changes

end ConfigChange

namespace Variables

/-- Two tables in one: the names of both are accepted together, and no name of either is lost. -/
theorem ofDict_insertAll_eq_merge (first second : Variables) :
    ofDict (first.dict.insertAll second.entries) = .ok (first.merge second) :=
  ofDict_eq_ok_iff.mpr (dict_merge first second)

/-- The token of a known name is replaced behind a text without percent signs. -/
theorem value_substitute_append (vars : Variables) {name value : String}
    (known : vars.get? name = some value) {front : String} (plain : '%' ∉ front.toList)
    (back : String) :
    (vars.substitute (front ++ "%" ++ name ++ "%" ++ back)).value =
      front ++ value ++ (vars.substitute back).value := by
  have text : (front ++ "%" ++ name ++ "%" ++ back).toList =
      front.toList ++ (VariableToken.spelled name ++ back.toList) := by
    simp [VariableToken.spelled]
  rw [value_substitute, value_substitute, text, vars.written_append_of_no_percent plain,
    vars.written_spelled_append known, String.ofList_append, String.ofList_append,
    String.ofList_toList, String.ofList_toList, String.append_assoc]

end Variables

/-- After any changes, refused overrides included, a variable is configured exactly if one of them
sets it, and has the value that was set last.  Its name is valid.  A file can be laid over the
configuration without falling back: the names of both are accepted together, and the result has all
of them, with the values of the file where it has one.  And the token of each configured variable is
substituted behind any text without percent signs. -/
theorem ConfigChange.run_substitutes (changes : List ConfigChange) :
    (∀ name, (run changes).vars.get? name = (lastSaid? (says? name) changes).join) ∧
      (∀ name ∈ (run changes).vars.dict.keys, isVariableName name = true) ∧
      (∀ file : ConfigFile, ∃ joined,
        Variables.ofDict ((run changes).vars.dict.insertAll file.vars.entries) = .ok joined ∧
        ((run changes).merge file).vars = joined ∧
        ∀ name, joined.get? name = (file.vars.get? name).or ((run changes).vars.get? name)) ∧
      ∀ name value, (run changes).vars.get? name = some value →
        ∀ front back : String, '%' ∉ front.toList →
          ((run changes).vars.substitute (front ++ "%" ++ name ++ "%" ++ back)).value =
            front ++ value ++ ((run changes).vars.substitute back).value := by
  refine ⟨?_, (run changes).vars.valid, ?_, ?_⟩
  · intro name
    rw [run, get?_vars_foldl_applyTo]
    cases lastSaid? (says? name) changes <;> rfl
  · intro file
    exact ⟨_, Variables.ofDict_insertAll_eq_merge _ _, rfl, Variables.get?_merge _ _⟩
  · intro name value known front back plain
    exact (run changes).vars.value_substitute_append known plain back

/-- Files and overrides, one of which has no name of a variable in it. -/
def quarrelsomeChanges : List ConfigChange :=
  [.merge { vars := ⟨Dict.ofList [("A", "1"), ("B", "1")], by decide +kernel⟩ },
    .overrides ["variables.A=%B%", "variables.a b=1", "variables.C=1"],
    .merge { vars := ⟨Dict.ofList [("B", "2")], by decide +kernel⟩ }]

/-- What stands behind the override that is refused is not applied. -/
theorem ConfigChange.run_substitutes_quarrelsome :
    (run quarrelsomeChanges).vars.get? "A" = some "%B%" ∧
      (run quarrelsomeChanges).vars.get? "C" = none ∧ '%' ∉ "é".toList ∧
      ((run quarrelsomeChanges).vars.substitute ("é" ++ "%" ++ "A" ++ "%" ++ "%C%B%")).value =
        "é%B%%C2" := by
  rcases run_substitutes quarrelsomeChanges with ⟨values, -, -, substituted⟩
  have isA : (run quarrelsomeChanges).vars.get? "A" = some "%B%" :=
    (values "A").trans (by decide +kernel)
  have plain : '%' ∉ "é".toList := by decide
  refine ⟨isA, (values "C").trans (by decide +kernel), plain, ?_⟩
  exact (substituted "A" "%B%" isA "é" "%C%B%" plain).trans (by decide +kernel)

end Folio
