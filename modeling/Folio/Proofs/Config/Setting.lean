import Folio.CommandLine

namespace Folio

/-!
# Settings, key by key

A configuration is seen here as the value of every key, each language and each variable having a
key of its own.  A layer (a file, an override, the flags) says something about some of the keys.
Laying it over a configuration gives these the values that it says, and every other key keeps the
value that it has.
-/

/-- What can be set. -/
inductive ConfigKey where
  | inputDir
  | outputDir
  | jobs
  | highlightCode
  | removeCommonIndent
  | imageMaxWidth
  | search
  /-- The language of an extension, which is written in small letters. -/
  | languageOf (extension : String)
  | valueOf (variableName : String)
  deriving DecidableEq

namespace ConfigKey

/-- What a key is set to; `none` stands for what is unset. -/
abbrev Value : ConfigKey → Type
  | inputDir => Option String
  | outputDir => String
  | jobs => Option Nat
  | highlightCode => Bool
  | removeCommonIndent => Bool
  | imageMaxWidth => Nat
  | search => Option Bool
  | languageOf _ => Option String
  | valueOf _ => Option String

end ConfigKey

/-- The value of a key in a configuration. -/
def Config.valueAt (c : Config) : (k : ConfigKey) → k.Value
  | .inputDir => c.inputDir
  | .outputDir => c.outputDir
  | .jobs => c.jobs
  | .highlightCode => c.highlightCode
  | .removeCommonIndent => c.removeCommonIndent
  | .imageMaxWidth => c.imageMaxWidth
  | .search => c.search
  | .languageOf extension => c.languages.get? extension
  | .valueOf name => c.vars.get? name

namespace ConfigFile

/-- The languages of a file by extensions in small letters. -/
def loweredLanguages (file : ConfigFile) : List (String × String) :=
  file.languages.entries.map fun e => (Text.lowercase e.1, e.2)

/-- Whether no two extensions of a file differ only in case. -/
def ExtensionsApart (file : ConfigFile) : Prop := (file.loweredLanguages.map Prod.fst).Nodup

instance (file : ConfigFile) : Decidable file.ExtensionsApart :=
  inferInstanceAs (Decidable (List.Nodup _))

/-- What a file sets a key to, if it sets it. -/
def says? (file : ConfigFile) : (k : ConfigKey) → Option k.Value
  | .inputDir => file.inputDir.map some
  | .outputDir => file.outputDir
  | .jobs => file.jobs.map some
  | .highlightCode => file.highlightCode
  | .removeCommonIndent => file.removeCommonIndent
  | .imageMaxWidth => file.imageMaxWidth
  | .search => file.search.map some
  | .languageOf extension => (file.loweredLanguages.lookup extension).map some
  | .valueOf name => (file.vars.get? name).map some

end ConfigFile

namespace ConfigKey

/-- The key of an entry of a table, which is meant by the names of the two with a dot in between. -/
def ofEntryText? (text : String) : Option ConfigKey :=
  match Text.dropFront? "languages.".toList text.toList with
  | some extension => some (.languageOf (Text.lowercase (String.ofList extension)))
  | none =>
    match Text.dropFront? "variables.".toList text.toList with
    | some name => some (.valueOf (String.ofList name))
    | none => none

/-- The key that is meant by the text in front of the equals sign. -/
def ofText? (text : String) : Option ConfigKey :=
  match text with
  | "input_dir" => some .inputDir
  | "output_dir" => some .outputDir
  | "jobs" => some .jobs
  | "highlight_code" => some .highlightCode
  | "remove_common_indent" => some .removeCommonIndent
  | "image_max_width" => some .imageMaxWidth
  | "search.enable" => some .search
  | _ => ofEntryText? text

/-- What is meant by the text behind the equals sign; an empty one unsets what may be unset. -/
def read? (text : String) : (k : ConfigKey) → Option k.Value
  | .inputDir => some (if text.isEmpty then none else some text)
  | .outputDir => some text
  | .jobs =>
    if text.isEmpty then some none else (Config.numberOf? ConfigFile.maxJobs text).map some
  | .highlightCode => Config.flagOf? text
  | .removeCommonIndent => Config.flagOf? text
  | .imageMaxWidth => Config.numberOf? ConfigFile.maxImageWidth text
  | .search => (Config.flagOf? text).map some
  | .languageOf _ => some (some text)
  | .valueOf name => if isVariableName name then some (some text) else none

end ConfigKey

/-- What an override sets a key to, if it sets it. -/
def overrideSays? (override : String) (k : ConfigKey) : Option k.Value :=
  match Config.splitOverride? override with
  | none => none
  | some (key, value) => if ConfigKey.ofText? key = some k then k.read? value else none

/-- What the flags of a command line set a key to, if they set it. -/
def CommandLine.says? (line : CommandLine) : (k : ConfigKey) → Option k.Value
  | .inputDir => line.inputDir.map some
  | .outputDir => line.outputDir
  | .jobs => line.jobs.map some
  | .highlightCode => if line.noHighlight then some false else none
  | _ => none

namespace Config

variable (c : Config)

theorem valueAt_applyTo (line : CommandLine) (k : ConfigKey) :
    (line.applyTo c).valueAt k = (line.says? k).getD (c.valueAt k) := by
  cases k with
  | inputDir =>
      cases h : line.inputDir <;> simp [valueAt, CommandLine.applyTo, CommandLine.says?, h]
  | jobs => cases h : line.jobs <;> simp [valueAt, CommandLine.applyTo, CommandLine.says?, h]
  | highlightCode =>
      cases h : line.noHighlight <;> simp [valueAt, CommandLine.applyTo, CommandLine.says?, h]
  | _ => rfl

theorem valueAt_merge {file : ConfigFile} (apart : file.ExtensionsApart) (k : ConfigKey) :
    (c.merge file).valueAt k = (file.says? k).getD (c.valueAt k) := by
  cases k with
  | inputDir => cases h : file.inputDir <;> simp [valueAt, merge, ConfigFile.says?, h]
  | jobs => cases h : file.jobs <;> simp [valueAt, merge, ConfigFile.says?, h]
  | search => cases h : file.search <;> simp [valueAt, merge, ConfigFile.says?, h]
  | languageOf extension =>
      change (c.languages.insertAll file.loweredLanguages).get? extension = _
      rw [Table.get?_insertAll c.languages apart]
      cases h : file.loweredLanguages.lookup extension <;>
        simp [valueAt, ConfigFile.says?, h]
  | valueOf name =>
      change (c.vars.merge file.vars).get? name = _
      rw [Variables.get?_merge]
      cases h : file.vars.get? name <;> simp [valueAt, ConfigFile.says?, h]
  | _ => rfl

/-- A file of any content leaves the keys alone that it says nothing about. -/
theorem valueAt_merge_of_says?_eq_none {file : ConfigFile} {k : ConfigKey}
    (silent : file.says? k = none) : (c.merge file).valueAt k = c.valueAt k := by
  cases k with
  | languageOf extension =>
      rw [ConfigFile.says?, Option.map_eq_none_iff, Table.lookup_eq_none_iff_not_mem] at silent
      exact Table.get?_insertAll_of_not_mem c.languages silent
  | valueOf name =>
      rw [ConfigFile.says?, Option.map_eq_none_iff] at silent
      change (c.vars.merge file.vars).get? name = c.vars.get? name
      rw [Variables.get?_merge, silent, Option.none_or]
  | inputDir | jobs | search =>
      rw [ConfigFile.says?, Option.map_eq_none_iff] at silent
      rw [valueAt, merge, silent]
      rfl
  | _ =>
      rw [ConfigFile.says?] at silent
      rw [valueAt, merge, silent]
      rfl

/-! ## Overriding a key -/

/-- What an override does: the key that it names gets the value that it spells and all others stay,
or else it is refused, whatever the configuration is. -/
inductive Overridden (key value : String) : Except ConfigError Config → Prop where
  | set {c' : Config} (k : ConfigKey) (v : k.Value) (named : ConfigKey.ofText? key = some k)
      (spelled : k.read? value = some v) (here : c'.valueAt k = v)
      (elsewhere : ∀ other, other ≠ k → c'.valueAt other = c.valueAt other) :
      Overridden key value (.ok c')
  | refused (e : ConfigError)
      (unspelled : ∀ k, ConfigKey.ofText? key = some k → k.read? value = none) :
      Overridden key value (.error e)

/-- A configuration with another value for a key that is not an entry of a table. -/
def setField : (k : ConfigKey) → k.Value → Config
  | .inputDir, v => { c with inputDir := v }
  | .outputDir, v => { c with outputDir := v }
  | .jobs, v => { c with jobs := v }
  | .highlightCode, v => { c with highlightCode := v }
  | .removeCommonIndent, v => { c with removeCommonIndent := v }
  | .imageMaxWidth, v => { c with imageMaxWidth := v }
  | .search, v => { c with search := v }
  | .languageOf _, _ => c
  | .valueOf _, _ => c

theorem valueAt_setField_of_ne {k other : ConfigKey} (different : other ≠ k) (v : k.Value) :
    (c.setField k v).valueAt other = c.valueAt other := by
  cases k <;> cases other <;> first | rfl | exact absurd rfl different

variable {c} {key value : String}

theorem overridden_setField {k : ConfigKey} {v : k.Value} (here : (c.setField k v).valueAt k = v)
    (named : ConfigKey.ofText? key = some k) (spelled : k.read? value = some v) :
    c.Overridden key value (.ok (c.setField k v)) :=
  .set k v named spelled here fun _ different => c.valueAt_setField_of_ne different v

/-- An override of a field whose value has to be spelled rightly. -/
theorem overridden_map_setField {α : Type} {k : ConfigKey} {spelled : Option α}
    (toValue : α → k.Value) (here : ∀ v, (c.setField k v).valueAt k = v)
    (named : ConfigKey.ofText? key = some k) (reads : k.read? value = spelled.map toValue)
    (e : ConfigError) :
    c.Overridden key value ((spelled.elim (.error e) .ok : Except ConfigError α).map
      fun a => c.setField k (toValue a)) := by
  cases spelled with
  | none =>
      refine .refused e ?_
      intro k' named'
      rw [named] at named'
      cases named'
      exact reads
  | some a => exact overridden_setField (here _) named reads

theorem readFlag_eq (key value : String) :
    readFlag key value = (flagOf? value).elim (.error (.notAFlag key value)) .ok := by
  rw [readFlag]
  cases flagOf? value <;> rfl

theorem readNumber_eq (bound : Nat) (key value : String) :
    readNumber bound key value =
      (numberOf? bound value).elim (.error (.notANumber key value)) .ok := by
  rw [readNumber]
  cases numberOf? bound value <;> rfl

theorem overridden_setLanguage {extension : String}
    (named : ConfigKey.ofText? key = some (.languageOf (Text.lowercase extension))) :
    c.Overridden key value (.ok (c.setLanguage extension value)) := by
  refine .set (.languageOf (Text.lowercase extension)) (some value) named rfl ?_ ?_
  · exact Table.get?_insert_self c.languages _ value
  · intro other different
    cases other with
    | languageOf extension' =>
        apply Table.get?_insert_of_ne
        rintro rfl
        exact different rfl
    | _ => rfl

theorem overridden_setVariable {name : String}
    (named : ConfigKey.ofText? key = some (.valueOf name)) :
    c.Overridden key value (c.setVariable name value) := by
  rw [setVariable]
  cases inserted : c.vars.insert name value with
  | error names =>
      have invalid : ¬ isVariableName name = true := by
        rw [← c.vars.exists_insert_eq_ok_iff name value, inserted]
        rintro ⟨vars, impossible⟩
        cases impossible
      refine .refused _ ?_
      intro k named'
      rw [named] at named'
      cases named'
      exact if_neg invalid
  | ok vars =>
      have valid : isVariableName name = true :=
        (c.vars.exists_insert_eq_ok_iff name value).mp ⟨vars, inserted⟩
      have same : vars.dict = c.vars.dict.insert name value :=
        Variables.ofDict_eq_ok_iff.mp inserted
      refine .set (.valueOf name) (some value) named (if_pos valid) ?_ ?_
      · change vars.dict.get? name = some value
        rw [same, Table.get?_insert_self]
      · intro other different
        cases other with
        | valueOf name' =>
            change vars.dict.get? name' = c.vars.dict.get? name'
            rw [same]
            apply Table.get?_insert_of_ne
            rintro rfl
            exact different rfl
        | _ => rfl

/-- An override whose key is no field names an entry of a table, or nothing. -/
theorem overridden_overrideEntry
    (named : ConfigKey.ofText? key = ConfigKey.ofEntryText? key) :
    c.Overridden key value (c.overrideEntry key value) := by
  rw [overrideEntry]
  rw [ConfigKey.ofEntryText?] at named
  cases language : Text.dropFront? "languages.".toList key.toList with
  | some extension =>
      rw [language] at named
      exact overridden_setLanguage named
  | none =>
      rw [language] at named
      cases variableName : Text.dropFront? "variables.".toList key.toList with
      | some name =>
          rw [variableName] at named
          exact overridden_setVariable named
      | none =>
          rw [variableName] at named
          refine .refused _ ?_
          intro k named'
          rw [named] at named'
          cases named'

/-- Every override sets the key that it names, or is refused. -/
theorem overridden_override (c : Config) (key value : String) :
    c.Overridden key value (c.override key value) := by
  unfold override
  split
  · exact overridden_setField (k := .inputDir) rfl rfl rfl
  · exact overridden_setField (k := .outputDir) rfl rfl rfl
  · split
    · next empty => exact overridden_setField (k := .jobs) rfl rfl (if_pos empty)
    · next shown =>
        rw [readNumber_eq]
        exact overridden_map_setField (k := .jobs) some (fun _ => rfl) rfl (if_neg shown) _
  · rw [readFlag_eq]
    exact overridden_map_setField (k := .highlightCode) id (fun _ => rfl) rfl
      Option.map_id'.symm _
  · rw [readFlag_eq]
    exact overridden_map_setField (k := .removeCommonIndent) id (fun _ => rfl) rfl
      Option.map_id'.symm _
  · rw [readNumber_eq]
    exact overridden_map_setField (k := .imageMaxWidth) id (fun _ => rfl) rfl
      Option.map_id'.symm _
  · rw [readFlag_eq]
    exact overridden_map_setField (k := .search) some (fun _ => rfl) rfl rfl _
  · apply overridden_overrideEntry
    rw [ConfigKey.ofText?] <;> assumption

/-- Whether an override succeeds does not depend on the configuration. -/
theorem exists_applyOverride_eq_ok_iff {text : String} :
    (∃ c', c.applyOverride text = .ok c') ↔ ∃ k, (overrideSays? text k).isSome := by
  unfold applyOverride overrideSays?
  cases splitOverride? text with
  | none => simp
  | some parts =>
      obtain ⟨key, value⟩ := parts
      change (∃ c', c.override key value = .ok c') ↔
        ∃ k, (if ConfigKey.ofText? key = some k then k.read? value else none).isSome
      have outcome := overridden_override c key value
      generalize c.override key value = result at outcome ⊢
      cases outcome with
      | set k v named spelled _ _ =>
          exact iff_of_true ⟨_, rfl⟩ ⟨k, by rw [if_pos named, spelled, Option.isSome_some]⟩
      | refused e unspelled =>
          refine iff_of_false nofun ?_
          rintro ⟨k, said⟩
          split at said
          · next named =>
              rw [unspelled k named] at said
              cases said
          · cases said

/-- An override that succeeds changes what it says something about, and nothing else. -/
theorem valueAt_of_applyOverride_eq_ok {text : String} {c' : Config}
    (applied : c.applyOverride text = .ok c') (k : ConfigKey) :
    c'.valueAt k = (overrideSays? text k).getD (c.valueAt k) := by
  unfold applyOverride at applied
  unfold overrideSays?
  cases parts : splitOverride? text with
  | none =>
      rw [parts] at applied
      cases applied
  | some keyAndValue =>
      obtain ⟨key, value⟩ := keyAndValue
      rw [parts] at applied
      change c.override key value = .ok c' at applied
      change c'.valueAt k =
        (if ConfigKey.ofText? key = some k then k.read? value else none).getD (c.valueAt k)
      have outcome := overridden_override c key value
      rw [applied] at outcome
      cases outcome with
      | set k' v named spelled here elsewhere =>
          by_cases same : k = k'
          · subst same
            rw [if_pos named, spelled, here, Option.getD_some]
          · have unnamed : ConfigKey.ofText? key ≠ some k := by
              rw [named]
              exact fun equal => same (Option.some.inj equal).symm
            rw [if_neg unnamed, elsewhere k same, Option.getD_none]

end Config

end Folio
