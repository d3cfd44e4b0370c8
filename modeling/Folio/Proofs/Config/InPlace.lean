import Folio.Proofs.Config.Setting

namespace Folio

/-!
# Overriding in place

An override is carried out in steps on a configuration that is kept, and some of its steps may fail.
All that may fail comes before the first change: a value is read before there is a table to write it
to, and a table of variables is checked before it takes the place of the old one.  So a failing
override leaves the configuration that it found, and overrides in a row come to a stop at the first
of them that is wrong, with what those in front of it have made.

Whether an override is wrong, and with which error it is refused, can be told from its text alone.
-/

/-- The error with which a text is refused that is no value of a key. -/
def ConfigKey.refusal (key value : String) : ConfigKey → ConfigError
  | .jobs | .imageMaxWidth => .notANumber key value
  | .valueOf name => .invalidNames ⟨[name]⟩
  | _ => .notAFlag key value

/-- The error of giving a value to a key, if the key means nothing or the value is none of it. -/
def settingError? (key value : String) : Option ConfigError :=
  match ConfigKey.ofText? key with
  | none => some (.unknownKey key)
  | some k =>
    match k.read? value with
    | none => some (k.refusal key value)
    | some _ => none

/-- The error of an override, if it is wrong. -/
def overrideError? (override : String) : Option ConfigError :=
  match Config.splitOverride? override with
  | none => some (.notAnOverride override)
  | some (key, value) => settingError? key value

theorem settingError?_of_read?_eq_none {key value : String} {k : ConfigKey}
    (named : ConfigKey.ofText? key = some k) (unread : k.read? value = none) :
    settingError? key value = some (k.refusal key value) := by
  simp only [settingError?, named, unread]

/-- An override is right exactly if it says something about a key. -/
theorem overrideError?_eq_none_iff {override : String} :
    overrideError? override = none ↔ ∃ k, (overrideSays? override k).isSome := by
  unfold overrideError? overrideSays?
  cases Config.splitOverride? override with
  | none => simp
  | some parts =>
      obtain ⟨key, value⟩ := parts
      change settingError? key value = none ↔
        ∃ k, (if ConfigKey.ofText? key = some k then k.read? value else none).isSome
      cases named : ConfigKey.ofText? key with
      | none => simp [settingError?, named]
      | some k =>
          cases spelled : k.read? value with
          | none =>
              rw [settingError?_of_read?_eq_none named spelled]
              refine iff_of_false nofun ?_
              rintro ⟨k', said⟩
              split at said
              · next same =>
                  rw [← Option.some.inj same, spelled] at said
                  cases said
              · cases said
          | some v =>
              refine iff_of_true ?_ ⟨k, by rw [if_pos rfl, spelled, Option.isSome_some]⟩
              simp only [settingError?, named, spelled]

/-- A name that no token can spell is the only one that a table is refused for. -/
theorem Variables.insert_of_not_isVariableName (vars : Variables) {name : String}
    (invalid : isVariableName name = false) (value : String) :
    vars.insert name value = .error ⟨[name]⟩ := by
  have new : name ∉ vars.dict.keys := by
    intro member
    rw [vars.valid name member] at invalid
    cases invalid
  have others : vars.dict.keys.filter (fun n => !isVariableName n) = [] := by
    rw [List.filter_eq_nil_iff]
    intro n member
    rw [vars.valid n member]
    exact Bool.false_ne_true
  have bad : checkVariableNames (vars.dict.insert name value).keys = .error ⟨[name]⟩ := by
    rw [Table.keys_insert, if_neg new, checkVariableNames, List.filter_append, others]
    simp [invalid]
  rw [insert, ofDict]
  split
  · next accepted =>
      rw [bad] at accepted
      cases accepted
  · next e refused => rw [← Except.error.inj (bad.symm.trans refused)]

namespace Config

/-- The end of steps that either have done all they should or have changed nothing. -/
def allOrNothing (c : Config) : Except ConfigError Config → EStateM.Result ConfigError Config Unit
  | .ok c' => .ok () c'
  | .error e => .error e c

section InPlace

variable (c : Config)

/-- What may fail is done before anything is changed. -/
theorem run_ofExcept_bind {α : Type} (read : Except ConfigError α) {change : α → InPlace Unit}
    {changed : α → Config} (changes : ∀ a, (change a).run c = .ok () (changed a)) :
    (MonadExcept.ofExcept read >>= change : InPlace Unit).run c =
      c.allOrNothing (read.map changed) := by
  cases read with
  | ok a => exact changes a
  | error e => rfl

theorem run_setVariableInPlace (name value : String) :
    (setVariableInPlace name value).run c = c.allOrNothing (c.setVariable name value) := by
  have checked : (setVariableInPlace name value).run c =
      c.allOrNothing (((c.vars.insert name value).mapError ConfigError.invalidNames).map
        fun vars => { c with vars }) :=
    run_ofExcept_bind c _ fun _ => rfl
  rw [checked, setVariable]
  cases c.vars.insert name value <;> rfl

theorem run_overrideEntryInPlace (key value : String) :
    (overrideEntryInPlace key value).run c = c.allOrNothing (c.overrideEntry key value) := by
  unfold overrideEntryInPlace overrideEntry
  split
  · rfl
  · split
    · exact c.run_setVariableInPlace _ value
    · rfl

/-- An override is carried out in full or it leaves the configuration as it is. -/
theorem run_overrideInPlace (key value : String) :
    (overrideInPlace key value).run c = c.allOrNothing (c.override key value) := by
  unfold overrideInPlace override
  split
  case h_3 =>
    cases value.isEmpty with
    | true => rfl
    | false => cases readNumber ConfigFile.maxJobs "jobs" value <;> rfl
  case h_8 => exact c.run_overrideEntryInPlace key value
  all_goals first | rfl | exact c.run_ofExcept_bind _ fun _ => rfl

theorem run_applyInPlace (text : String) :
    (applyInPlace text).run c = c.allOrNothing (c.applyOverride text) := by
  unfold applyInPlace applyOverride
  split
  · rfl
  · exact c.run_overrideInPlace _ _

theorem applyOverrides_cons (text : String) (rest : List String) :
    c.applyOverrides (text :: rest) =
      ended (EStateM.bind (applyInPlace text) (fun _ => rest.forM applyInPlace) c) :=
  rfl

variable {c} {text : String}

theorem applyOverrides_cons_of_ok {c' : Config} (applied : c.applyOverride text = .ok c')
    (rest : List String) : c.applyOverrides (text :: rest) = c'.applyOverrides rest := by
  have first : applyInPlace text c = .ok () c' :=
    (c.run_applyInPlace text).trans (congrArg c.allOrNothing applied)
  rw [applyOverrides_cons, EStateM.bind, first]
  rfl

theorem applyOverrides_cons_of_error {e : ConfigError} (fails : c.applyOverride text = .error e)
    (rest : List String) : c.applyOverrides (text :: rest) = (c, some e) := by
  have first : applyInPlace text c = .error e c :=
    (c.run_applyInPlace text).trans (congrArg c.allOrNothing fails)
  rw [applyOverrides_cons, EStateM.bind, first]
  rfl

end InPlace

/-! ## The error of an override -/

variable {c : Config} {key value : String} {e : ConfigError}

/-- A value that cannot be read is refused. -/
theorem settingError?_of_map_eq_error {α : Type} {spelled : Option α} {change : α → Config}
    {k : ConfigKey} (named : ConfigKey.ofText? key = some k) {toValue : α → k.Value}
    (reads : k.read? value = spelled.map toValue)
    (fails : ((spelled.elim (.error (k.refusal key value)) .ok : Except ConfigError α).map change) =
      .error e) :
    settingError? key value = some e := by
  cases spelled with
  | none =>
      rw [← Except.error.inj fails]
      exact settingError?_of_read?_eq_none named reads
  | some a => cases fails

theorem settingError?_of_setVariable_eq_error {name : String}
    (named : ConfigKey.ofText? key = some (.valueOf name))
    (fails : c.setVariable name value = .error e) : settingError? key value = some e := by
  cases valid : isVariableName name with
  | true =>
      rcases (c.vars.exists_insert_eq_ok_iff name value).mpr valid with ⟨vars, inserted⟩
      rw [setVariable, inserted] at fails
      cases fails
  | false =>
      rw [setVariable, c.vars.insert_of_not_isVariableName valid] at fails
      rw [← Except.error.inj fails]
      exact settingError?_of_read?_eq_none named (if_neg (ne_true_of_eq_false valid))

theorem settingError?_of_overrideEntry_eq_error
    (named : ConfigKey.ofText? key = ConfigKey.ofEntryText? key)
    (fails : c.overrideEntry key value = .error e) : settingError? key value = some e := by
  rw [overrideEntry] at fails
  rw [ConfigKey.ofEntryText?] at named
  cases language : Text.dropFront? "languages.".toList key.toList with
  | some extension =>
      rw [language] at fails
      cases fails
  | none =>
      rw [language] at named fails
      cases variableName : Text.dropFront? "variables.".toList key.toList with
      | some name =>
          rw [variableName] at named fails
          exact settingError?_of_setVariable_eq_error named fails
      | none =>
          rw [variableName] at named fails
          rw [settingError?, named, ← Except.error.inj fails]

theorem settingError?_of_override_eq_error (fails : c.override key value = .error e) :
    settingError? key value = some e := by
  unfold override at fails
  split at fails
  case h_1 | h_2 => cases fails
  case h_3 =>
    split at fails
    · cases fails
    · next shown =>
        rw [readNumber_eq] at fails
        exact settingError?_of_map_eq_error (k := .jobs) rfl (if_neg shown) fails
  case h_4 =>
    rw [readFlag_eq] at fails
    exact settingError?_of_map_eq_error (k := .highlightCode) rfl Option.map_id'.symm fails
  case h_5 =>
    rw [readFlag_eq] at fails
    exact settingError?_of_map_eq_error (k := .removeCommonIndent) rfl Option.map_id'.symm fails
  case h_6 =>
    rw [readNumber_eq] at fails
    exact settingError?_of_map_eq_error (k := .imageMaxWidth) rfl Option.map_id'.symm fails
  case h_7 =>
    rw [readFlag_eq] at fails
    exact settingError?_of_map_eq_error (k := .search) rfl rfl fails
  case h_8 =>
    apply settingError?_of_overrideEntry_eq_error _ fails
    rw [ConfigKey.ofText?] <;> assumption

/-- With which error an override is refused can be told without the configuration. -/
theorem applyOverride_eq_error_iff {text : String} :
    c.applyOverride text = .error e ↔ overrideError? text = some e := by
  have told : ∀ e, c.applyOverride text = .error e → overrideError? text = some e := by
    intro e fails
    rw [applyOverride] at fails
    rw [overrideError?]
    cases parts : splitOverride? text with
    | none =>
        rw [parts] at fails
        exact congrArg some (Except.error.inj fails)
    | some keyAndValue =>
        rw [parts] at fails
        exact settingError?_of_override_eq_error fails
  constructor
  · exact told e
  · intro wrong
    cases applied : c.applyOverride text with
    | ok c' =>
        have right := overrideError?_eq_none_iff.mpr
          (exists_applyOverride_eq_ok_iff.mp ⟨c', applied⟩)
        rw [right] at wrong
        cases wrong
    | error e' => rw [Option.some.inj (wrong.symm.trans (told e' applied))]

/-! ## Overrides in a row -/

/-- A single override is carried out in full, or it fails and leaves everything as it was.
Overrides in a row succeed exactly if each of them is right in itself, and then they make of a
configuration what they make of it one after the other.  Otherwise there is a first that is wrong,
and they end with its error and with the configuration that those in front of it have made. -/
theorem applyOverrides_stops (c : Config) (texts : List String) :
    (∀ text, (applyInPlace text).run c = c.allOrNothing (c.applyOverride text)) ∧
      ((c.applyOverrides texts).2 = none ↔ ∀ text ∈ texts, overrideError? text = none) ∧
      ((∃ c', texts.foldlM applyOverride c = .ok c' ∧ c.applyOverrides texts = (c', none)) ∨
        ∃ front text back c' e, texts = front ++ text :: back ∧
          (∀ earlier ∈ front, overrideError? earlier = none) ∧ overrideError? text = some e ∧
          front.foldlM applyOverride c = .ok c' ∧ (applyInPlace text).run c' = .error e c' ∧
          c.applyOverrides texts = (c', some e)) := by
  refine ⟨c.run_applyInPlace, ?_⟩
  induction texts generalizing c with
  | nil => exact ⟨iff_of_true rfl nofun, .inl ⟨c, rfl, rfl⟩⟩
  | cons text rest inductionHypothesis =>
      cases applied : c.applyOverride text with
      | ok next =>
          rw [applyOverrides_cons_of_ok applied]
          have right : overrideError? text = none :=
            overrideError?_eq_none_iff.mpr (exists_applyOverride_eq_ok_iff.mp ⟨next, applied⟩)
          rcases inductionHypothesis next with ⟨succeeds, outcome⟩
          refine ⟨succeeds.trans (by simp [right]), ?_⟩
          rcases outcome with ⟨c', folded, ends⟩ |
            ⟨front, wrong, back, c', e, split, earlierRight, isWrong, folded, leaves, ends⟩
          · refine .inl ⟨c', ?_, ends⟩
            rw [List.foldlM_cons, applied]
            exact folded
          · refine .inr ⟨text :: front, wrong, back, c', e, ?_, ?_, isWrong, ?_, leaves, ends⟩
            · rw [split, List.cons_append]
            · exact List.forall_mem_cons.mpr ⟨right, earlierRight⟩
            · rw [List.foldlM_cons, applied]
              exact folded
      | error e =>
          have wrong : overrideError? text = some e := applyOverride_eq_error_iff.mp applied
          rw [applyOverrides_cons_of_error applied]
          refine ⟨iff_of_false nofun ?_,
            .inr ⟨[], text, rest, c, e, rfl, nofun, wrong, rfl, ?_, rfl⟩⟩
          · intro right
            rw [right text List.mem_cons_self] at wrong
            cases wrong
          · rw [run_applyInPlace, applied]
            rfl

/-- A value that is no truth leaves no table behind that nothing was said about before. -/
example : let ended := ({} : Config).applyOverrides ["jobs=4", "search.enable=maybe", "jobs="]
    ended.1.jobs = some 4 ∧ ended.1.search = none ∧
      ended.2 = some (.notAFlag "search.enable" "maybe") := by
  decide +kernel

end Config

end Folio
