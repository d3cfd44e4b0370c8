import Folio.Proofs.Config.Layer
import Folio.Proofs.Files.FileStore

namespace Folio

/-!
# What a settings file mentions

A settings file is a table, whose fields hold the values of the keys; the fields for languages, for
variables and for the search index are tables again.  A key that is mentioned nowhere in a file has
after the file the value that it had before, with one exception.  Settings of the search index are
taken as a whole: if they do not mention whether the index is on, it is switched on.
-/

namespace ConfigKey

/-- The field of a file under which a key is set. -/
def fieldName : ConfigKey → String
  | inputDir => "input_dir"
  | outputDir => "output_dir"
  | jobs => "jobs"
  | highlightCode => "highlight_code"
  | removeCommonIndent => "remove_common_indent"
  | imageMaxWidth => "image_max_width"
  | search => "search"
  | languageOf _ => "languages"
  | valueOf _ => "variables"

end ConfigKey

namespace ConfigFile

variable {form : ConfigNotation} {name : String} {d : Datum} {file file' : ConfigFile}

theorem eq_of_field_eq_ok {α : Type} {read : Datum → Option α}
    {write : α → ConfigFile → ConfigFile} (taken : field read write d file = .ok file') :
    ∃ a, read d = some a ∧ file' = write a file := by
  unfold field at taken
  cases value : read d with
  | none =>
      rw [value] at taken
      cases taken
  | some a =>
      rw [value] at taken
      exact ⟨a, rfl, (Except.ok.inj taken).symm⟩

theorem eq_of_varsField_eq_ok (taken : varsField d file = .ok file') :
    ∃ dict vars, d.asDict = some dict ∧ Variables.ofDict dict = .ok vars ∧
      file' = { file with vars } := by
  unfold varsField at taken
  cases value : d.asDict with
  | none =>
      rw [value] at taken
      cases taken
  | some dict =>
      simp only [value] at taken
      cases checked : Variables.ofDict dict with
      | error names =>
          rw [checked] at taken
          cases taken
      | ok vars =>
          rw [checked] at taken
          exact ⟨dict, vars, rfl, checked, (Except.ok.inj taken).symm⟩

/-- Whether what is written to a file goes to one field, whatever stood there before. -/
structure WritesField (name : String) (write : ConfigFile → ConfigFile) : Prop where
  here : ∀ file (k : ConfigKey), k.fieldName = name → (write file).says? k = (write {}).says? k
  elsewhere : ∀ file (k : ConfigKey), k.fieldName ≠ name → (write file).says? k = file.says? k

/-- Whether all that is taken for a field is written to it. -/
def TakesField (name : String) (take : Field) : Prop :=
  ∀ d file file', take d file = .ok file' →
    ∃ write, WritesField name write ∧ file' = write file ∧ take d {} = .ok (write {})

theorem takesField_field {α : Type} {read : Datum → Option α}
    {write : α → ConfigFile → ConfigFile} (writes : ∀ a, WritesField name (write a)) :
    TakesField name (field read write) := by
  intro d file file' taken
  rcases eq_of_field_eq_ok taken with ⟨a, value, rfl⟩
  exact ⟨write a, writes a, rfl, by rw [field, value]⟩

theorem takesField_varsField : TakesField "variables" varsField := by
  intro d file file' taken
  rcases eq_of_varsField_eq_ok taken with ⟨dict, vars, value, checked, rfl⟩
  refine ⟨fun f => { f with vars }, ⟨?_, ?_⟩, rfl, by simp only [varsField, value, checked]⟩
  all_goals
    intro file k named
    cases k
    all_goals first | rfl | exact absurd rfl named | simp [ConfigKey.fieldName] at named

/-- No field is written but by the values that stand under its name. -/
theorem takesField_of_mem {take : Field} (isField : (name, take) ∈ fields form) :
    TakesField name take := by
  simp only [fields, List.mem_cons, List.not_mem_nil, or_false, Prod.mk.injEq] at isField
  rcases isField with ⟨rfl, rfl⟩ | ⟨rfl, rfl⟩ | ⟨rfl, rfl⟩ | ⟨rfl, rfl⟩ | ⟨rfl, rfl⟩ | ⟨rfl, rfl⟩ |
    ⟨rfl, rfl⟩ | ⟨rfl, rfl⟩ | ⟨rfl, rfl⟩
  -- The names of variables are looked at as well; the other fields are read and written alike.
  case inr.inr.inr.inr.inr.inr.inr.inl => exact takesField_varsField
  all_goals
    refine takesField_field fun a => ⟨?_, ?_⟩
    all_goals
      intro file k named
      cases k
      all_goals first | rfl | exact absurd rfl named | simp [ConfigKey.fieldName] at named

/-- Every key has a field. -/
theorem exists_lookup_fieldName (form : ConfigNotation) (k : ConfigKey) :
    ∃ take, (fields form).lookup k.fieldName = some take := by
  cases k <;> exact ⟨_, rfl⟩

variable {complete : Bool} {entries : List (String × Datum)} {seen : List String}

/-- An entry under an unknown name is passed over, and any other one is taken for its field, which
has not been seen yet. -/
theorem takeEntries_cons_eq_ok {key : String}
    (taken : takeEntries form complete seen ((key, d) :: entries) file = .ok file') :
    ((fields form).lookup key = none ∧ takeEntries form complete seen entries file = .ok file') ∨
      ∃ take next, (fields form).lookup key = some take ∧ key ∉ seen ∧ take d file = .ok next ∧
        takeEntries form complete (key :: seen) entries next = .ok file' := by
  rw [takeEntries] at taken
  cases isField : (fields form).lookup key with
  | none =>
      rw [isField] at taken
      by_cases held : d.isHeld
      · exact .inl ⟨rfl, by simpa [held] using taken⟩
      · simp [held] at taken
  | some take =>
      simp only [isField] at taken
      split at taken
      · cases taken
      · next unseen =>
          cases next : take d file with
          | error e =>
              simp [next] at taken
          | ok after =>
              simp only [next] at taken
              exact .inr ⟨take, after, rfl, unseen, next, taken⟩

/-- A field that has been seen does not come again. -/
theorem lookup_eq_none_of_mem_seen {take : Field} (isField : (fields form).lookup name = some take)
    (member : name ∈ seen)
    (taken : takeEntries form complete seen entries file = .ok file') :
    entries.lookup name = none := by
  induction entries generalizing seen file with
  | nil => rfl
  | cons e rest inductionHypothesis =>
      obtain ⟨key, d⟩ := e
      rw [List.lookup_cons]
      rcases takeEntries_cons_eq_ok taken with
        ⟨noField, restTaken⟩ | ⟨_, _, _, unseen, _, restTaken⟩
      · have different : (name == key) = false := by
          rw [beq_eq_false_iff_ne]
          rintro rfl
          rw [noField] at isField
          cases isField
        rw [different]
        exact inductionHypothesis member restTaken
      · have different : (name == key) = false := by
          rw [beq_eq_false_iff_ne]
          rintro rfl
          exact unseen member
        rw [different]
        exact inductionHypothesis (List.mem_cons_of_mem _ member) restTaken

/-- Of a key a table says what the entry for its field says, and nothing without such an entry. -/
theorem says?_of_takeEntries_eq_ok
    (taken : takeEntries form complete seen entries file = .ok file') (k : ConfigKey) :
    match entries.lookup k.fieldName with
    | none => file'.says? k = file.says? k
    | some d => ∃ take alone, (fields form).lookup k.fieldName = some take ∧
        take d {} = .ok alone ∧ file'.says? k = alone.says? k := by
  induction entries generalizing seen file with
  | nil =>
      rw [takeEntries] at taken
      split at taken
      · cases taken
        rfl
      · cases taken
  | cons e rest inductionHypothesis =>
      obtain ⟨key, d⟩ := e
      rw [List.lookup_cons]
      rcases exists_lookup_fieldName form k with ⟨takeHere, isHere⟩
      rcases takeEntries_cons_eq_ok taken with
        ⟨noField, restTaken⟩ | ⟨take, next, isField, unseen, takes, restTaken⟩
      · have different : (k.fieldName == key) = false := by
          rw [beq_eq_false_iff_ne]
          rintro rfl
          rw [noField] at isHere
          cases isHere
        rw [different]
        exact inductionHypothesis restTaken
      · rcases takesField_of_mem (Table.mem_of_lookup_eq_some isField) d file next takes with
          ⟨write, writes, rfl, alone⟩
        by_cases same : k.fieldName = key
        -- The field does not come again, so what was taken for it stays.
        · have last := lookup_eq_none_of_mem_seen isField List.mem_cons_self restTaken
          have later := inductionHypothesis restTaken
          rw [same, last] at later
          simp only [same, beq_self_eq_true]
          exact ⟨take, write {}, isField, alone, later.trans (writes.here file k same)⟩
        · rw [beq_eq_false_iff_ne.mpr same]
          have later := inductionHypothesis restTaken
          rw [writes.elsewhere file k same] at later
          exact later

end ConfigFile

/-! ## Mentions -/

namespace Datum

def keys : Datum → List String
  | table entries => entries.map Prod.fst
  | _ => []

def hasElements : Datum → Bool
  | list values => !values.isEmpty
  | _ => false

def isNull : Datum → Bool
  | null => true
  | _ => false

theorem map_fst_of_mapM_eq_some {entries : List (String × Datum)} {pairs : List (String × String)}
    (read : (entries.mapM fun e => (asText e.2).map fun s => (e.1, s)) = some pairs) :
    pairs.map Prod.fst = entries.map Prod.fst := by
  induction entries generalizing pairs with
  | nil =>
      cases read
      rfl
  | cons e rest inductionHypothesis =>
      simp only [List.mapM_cons, Option.bind_eq_bind, Option.bind_eq_some_iff,
        Option.map_eq_some_iff, Option.pure_def, Option.some.injEq] at read
      rcases read with ⟨_, ⟨s, -, rfl⟩, later, readLater, rfl⟩
      rw [List.map_cons, List.map_cons, inductionHypothesis readLater]

/-- A dictionary has no keys beside those of the table that it was read from. -/
theorem keys_subset_of_asDict_eq_some {d : Datum} {dict : Dict String}
    (isDict : d.asDict = some dict) : dict.keys ⊆ d.keys := by
  cases d with
  | table entries =>
      rw [asDict, Option.map_eq_some_iff] at isDict
      rcases isDict with ⟨pairs, read, rfl⟩
      intro key member
      rcases Table.mem_keys_insertAll member with impossible | listed
      · cases impossible
      · rw [map_fst_of_mapM_eq_some read] at listed
        exact listed
  | _ => cases isDict

theorem valuesAt_eq_nil {key : String} {entries : List (String × Datum)}
    (absent : key ∉ entries.map Prod.fst) : valuesAt key entries = [] := by
  rw [valuesAt, List.map_eq_nil_iff, List.filter_eq_nil_iff]
  rintro e member same
  rw [beq_iff_eq] at same
  exact absent (same ▸ List.mem_map_of_mem member)

end Datum

namespace ConfigKey

/-- Whether the value of the field of a key mentions the key; a null mentions nothing. -/
def isMentionedBy (k : ConfigKey) (d : Datum) : Bool :=
  match k with
  | search => d.keys.contains "enable" || d.hasElements
  | languageOf extension => (d.keys.map Text.lowercase).contains extension
  | valueOf name => d.keys.contains name
  | _ => !d.isNull

/-- Whether a table mentions a key. -/
def isMentionedIn (k : ConfigKey) (entries : List (String × Datum)) : Bool :=
  (entries.lookup k.fieldName).any k.isMentionedBy

/-- Whether a table has something in the field of a key. -/
def hasFieldIn (k : ConfigKey) (entries : List (String × Datum)) : Bool :=
  (entries.lookup k.fieldName).any fun d => !d.isNull

end ConfigKey

namespace ConfigFile

variable {form : ConfigNotation} {d : Datum} {alone : ConfigFile} {take : Field} {k : ConfigKey}

theorem says?_of_take_of_not_mentioned (isField : (fields form).lookup k.fieldName = some take)
    (taken : take d {} = .ok alone) (unmentioned : k.isMentionedBy d = false)
    (notSearch : k ≠ .search) : alone.says? k = none := by
  cases k with
  | languageOf extension =>
      cases Option.some.inj isField
      rcases eq_of_field_eq_ok taken with ⟨dict, isDict, rfl⟩
      have absent : extension ∉ d.keys.map Text.lowercase := by
        simpa [ConfigKey.isMentionedBy] using unmentioned
      rw [says?, Option.map_eq_none_iff, Table.lookup_eq_none_iff_not_mem]
      intro listed
      rw [loweredLanguages, List.map_map] at listed
      rcases List.mem_map.mp listed with ⟨e, isEntry, rfl⟩
      have isKey := Datum.keys_subset_of_asDict_eq_some isDict (List.mem_map_of_mem isEntry)
      exact absent (List.mem_map_of_mem isKey)
  | valueOf name =>
      cases Option.some.inj isField
      rcases eq_of_varsField_eq_ok taken with ⟨dict, vars, isDict, checked, rfl⟩
      have absent : name ∉ d.keys := by
        simpa [ConfigKey.isMentionedBy] using unmentioned
      have unlisted : name ∉ vars.dict.keys := by
        rw [Variables.ofDict_eq_ok_iff.mp checked]
        exact fun isKey => absent (Datum.keys_subset_of_asDict_eq_some isDict isKey)
      rw [says?, Option.map_eq_none_iff]
      exact Table.lookup_eq_none_iff_not_mem.mpr unlisted
  | search => exact absurd rfl notSearch
  | _ =>
      cases Option.some.inj isField
      cases d with
      | null =>
          cases taken
          rfl
      | _ => cases unmentioned

/-- Settings of the search index that do not mention whether it is on switch it on. -/
theorem search_of_take_of_not_mentioned (isField : (fields form).lookup "search" = some take)
    (taken : take d {} = .ok alone) (unmentioned : ConfigKey.search.isMentionedBy d = false) :
    alone.search = if d.isNull then none else some true := by
  cases Option.some.inj isField
  rcases eq_of_field_eq_ok taken with ⟨enabled, read, rfl⟩
  rw [ConfigKey.isMentionedBy, Bool.or_eq_false_iff] at unmentioned
  rcases unmentioned with ⟨noKey, noElements⟩
  cases d with
  | null => exact (Option.some.inj read).symm
  | table entries =>
      have nothing := Datum.valuesAt_eq_nil (by simpa [Datum.keys] using noKey)
      change (Datum.asSearch form (.table entries)).map some = some enabled at read
      rw [Datum.asSearch, nothing] at read
      split at read
      · cases read
      · exact (Option.some.inj read).symm
  | list values =>
      cases values with
      | nil => exact (Option.some.inj read).symm
      | cons first rest => cases noElements
  | _ => cases read

/-- What a table says of keys that it does not mention: nothing, but that the search index is on if
it has settings of the index. -/
theorem says?_of_not_mentionedIn (taken : takeEntries form complete seen entries {} = .ok file) :
    (∀ k, k ≠ .search → k.isMentionedIn entries = false → file.says? k = none) ∧
      (ConfigKey.search.isMentionedIn entries = false →
        file.search = if ConfigKey.search.hasFieldIn entries then some true else none) := by
  constructor
  · intro k notSearch unmentioned
    have said := says?_of_takeEntries_eq_ok taken k
    cases found : entries.lookup k.fieldName with
    | none =>
        rw [found] at said
        rw [said]
        cases k <;> rfl
    | some d =>
        rw [found] at said
        rcases said with ⟨take, alone, isField, takes, same⟩
        rw [ConfigKey.isMentionedIn, found] at unmentioned
        rw [same]
        exact says?_of_take_of_not_mentioned isField takes unmentioned notSearch
  · intro unmentioned
    have said := says?_of_takeEntries_eq_ok taken .search
    rw [ConfigKey.hasFieldIn]
    cases found : entries.lookup ConfigKey.search.fieldName with
    | none =>
        rw [found] at said
        exact Option.map_injective (fun _ _ => Option.some.inj) said
    | some d =>
        rw [found] at said
        rcases said with ⟨take, alone, isField, takes, sameSaid⟩
        rw [ConfigKey.isMentionedIn, found] at unmentioned
        have same : file.search = alone.search :=
          Option.map_injective (fun _ _ => Option.some.inj) sameSaid
        rw [same, search_of_take_of_not_mentioned isField takes unmentioned]
        cases d <;> rfl

end ConfigFile

/-! ## Files -/

/-- How a text is laid out in a notation. -/
def ConfigNotation.layout (form : ConfigNotation) (content : String) : Layout :=
  match form with
  | json => JsonText.read content
  | toml => Toml.read content

theorem ConfigFile.parse_eq (form : ConfigNotation) (content : String) :
    parse form content = ofLayout form (form.layout content) := by
  cases form <;> rfl

namespace FileStore

variable {fs : FileStore} {path : String} {file : ConfigFile}

theorem eq_ok_of_mapError_eq_ok {ε ε' α : Type} {x : Except ε α} {f : ε → ε'} {a : α}
    (wentWell : x.mapError f = .ok a) : x = .ok a := by
  cases x with
  | error e => cases wentWell
  | ok b => exact congrArg Except.ok (Except.ok.inj wentWell)

/-- A settings file that loads is a text in the notation of its extension. -/
theorem exists_parse_of_readConfig_eq_ok (loads : fs.readConfig path = .ok file) :
    ∃ content form, fs.readText path = .ok content ∧
      (PathName.extension? path).bind ConfigNotation.ofExtension? = some form ∧
      ConfigFile.parse form content = .ok file := by
  rcases exists_of_bind_eq_ok loads with ⟨content, text, parsed⟩
  cases hasExtension : PathName.extension? path with
  | none =>
      rw [hasExtension] at parsed
      cases parsed
  | some extension =>
      simp only [hasExtension] at parsed
      cases isForm : ConfigNotation.ofExtension? extension with
      | none =>
          rw [isForm] at parsed
          cases parsed
      | some form =>
          rw [isForm] at parsed
          exact ⟨content, form, eq_ok_of_mapError_eq_ok text, isForm,
            eq_ok_of_mapError_eq_ok parsed⟩

/-- The entries of a settings file that is a table. -/
def tableAt? (fs : FileStore) (path : String) : Option (List (String × Datum)) :=
  match fs.readText path, (PathName.extension? path).bind ConfigNotation.ofExtension? with
  | .ok content, some form =>
    match form.layout content with
    | .table entries _ => some entries
    | _ => none
  | _, _ => none

theorem exists_takeEntries_of_tableAt? {entries : List (String × Datum)}
    (loads : fs.readConfig path = .ok file) (isTable : fs.tableAt? path = some entries) :
    ∃ form complete, ConfigFile.takeEntries form complete [] entries {} = .ok file := by
  rcases exists_parse_of_readConfig_eq_ok loads with ⟨content, form, text, isForm, parsed⟩
  rw [ConfigFile.parse_eq] at parsed
  simp only [tableAt?, text, isForm] at isTable
  cases layout : form.layout content with
  | table entries' complete =>
      rw [layout] at isTable parsed
      cases isTable
      exact ⟨form, complete, parsed⟩
  | list values complete =>
      rw [layout] at isTable
      cases isTable
  | unreadable =>
      rw [layout] at isTable
      cases isTable

end FileStore

namespace Config

/-- A table that is laid over another file leaves what it does not mention as it is, but for the
search index: settings of the index that do not mention whether it is on switch it on. -/
theorem ofFiles_keeps_unmentioned {fs : FileStore} {first second : String}
    {base added : ConfigFile} {entries : List (String × Datum)}
    (firstLoads : fs.readConfig first = .ok base) (secondLoads : fs.readConfig second = .ok added)
    (isTable : fs.tableAt? second = some entries) :
    ∃ alone both, ofFile fs first = .ok alone ∧ ofFiles fs [first, second] = .ok both ∧
      (∀ k, k ≠ .search → k.isMentionedIn entries = false →
        both.valueAt k = alone.valueAt k) ∧
      (ConfigKey.search.isMentionedIn entries = false → both.search =
        if ConfigKey.search.hasFieldIn entries then some true else alone.search) := by
  rcases FileStore.exists_takeEntries_of_tableAt? secondLoads isTable with ⟨form, complete, taken⟩
  rcases ConfigFile.says?_of_not_mentionedIn taken with ⟨silent, enabled⟩
  have bothLoad : ofFiles fs [first, second] = .ok ([base, added].foldl merge {}) :=
    foldlM_readConfig (.cons firstLoads (.cons secondLoads .nil)) {}
  refine ⟨({} : Config).merge base, _, ?_, bothLoad, ?_, ?_⟩
  · rw [ofFile, firstLoads]
    rfl
  · intro k notSearch unmentioned
    exact valueAt_merge_of_says?_eq_none _ (silent k notSearch unmentioned)
  · intro unmentioned
    change added.search.or _ = _
    rw [enabled unmentioned]
    split <;> rfl

/-- Two tables, the second of which has settings of the search index and mentions nothing. -/
def twoTables : FileStore where
  entries := Table.ofList
    [(["a.toml"], .file (some ("output_dir = \"one\"\njobs = 2\n[languages]\nrs = \"rust\"\n" ++
        "[variables]\nA = \"1\"\n[search]\nenable = false\n"))),
      (["b.toml"], .file (some "[search]\n"))]

/-- What the first of the two tables says. -/
def firstTable : ConfigFile where
  outputDir := some "one"
  jobs := some 2
  languages := Dict.ofList [("rs", "rust")]
  vars := ⟨Dict.ofList [("A", "1")], by decide +kernel⟩
  search := some false

theorem readConfig_twoTables :
    twoTables.readConfig "a.toml" = .ok firstTable ∧
      twoTables.readConfig "b.toml" = .ok { search := some true } := by
  decide +kernel

theorem exists_tableAt?_twoTables :
    ∃ entries, twoTables.tableAt? "b.toml" = some entries ∧
      ConfigKey.search.hasFieldIn entries = true ∧
      ∀ k ∈ ([.outputDir, .languageOf "rs", .valueOf "A", .search] : List ConfigKey),
        k.isMentionedIn entries = false := by
  have told : (twoTables.tableAt? "b.toml").any (fun entries =>
      ConfigKey.search.hasFieldIn entries &&
        ([.outputDir, .languageOf "rs", .valueOf "A", .search] : List ConfigKey).all fun k =>
          !k.isMentionedIn entries) = true := by
    decide +kernel
  cases isTable : twoTables.tableAt? "b.toml" with
  | none =>
      rw [isTable] at told
      cases told
  | some entries =>
      rw [isTable, Option.any_some, Bool.and_eq_true, List.all_eq_true] at told
      refine ⟨entries, rfl, told.1, fun k member => ?_⟩
      simpa using told.2 k member

/-- What only the first table mentions is kept, but for the search index. -/
theorem ofFiles_keeps_unmentioned_twoTables :
    ∃ alone both, ofFile twoTables "a.toml" = .ok alone ∧
      ofFiles twoTables ["a.toml", "b.toml"] = .ok both ∧
      both.outputDir = alone.outputDir ∧
      both.languages.get? "rs" = alone.languages.get? "rs" ∧
      both.vars.get? "A" = alone.vars.get? "A" ∧ both.search = some true := by
  rcases exists_tableAt?_twoTables with ⟨entries, isTable, hasSearch, unmentioned⟩
  rcases ofFiles_keeps_unmentioned readConfig_twoTables.1 readConfig_twoTables.2 isTable with
    ⟨alone, both, ofFirst, ofBoth, kept, search⟩
  refine ⟨alone, both, ofFirst, ofBoth, ?_, ?_, ?_, ?_⟩
  · exact kept .outputDir nofun (unmentioned _ (by decide))
  · exact kept (.languageOf "rs") nofun (unmentioned _ (by decide))
  · exact kept (.valueOf "A") nofun (unmentioned _ (by decide))
  · rw [search (unmentioned _ (by decide)), if_pos hasSearch]

/-- A table can change the value of a key that it does not mention. -/
theorem not_forall_keeps_unmentioned :
    ¬ ∀ (fs : FileStore) (first second : String) (earlier entries : List (String × Datum))
      (alone both : Config) (k : ConfigKey),
      fs.tableAt? first = some earlier → fs.tableAt? second = some entries →
      ofFile fs first = .ok alone → ofFiles fs [first, second] = .ok both →
      k.isMentionedIn entries = false → both.valueAt k = alone.valueAt k := by
  intro kept
  rcases exists_tableAt?_twoTables with ⟨entries, isTable, -, unmentioned⟩
  have firstIsTable : (twoTables.tableAt? "a.toml").isSome = true := by decide +kernel
  rcases Option.isSome_iff_exists.mp firstIsTable with ⟨earlier, isTable'⟩
  have ofFirst : ofFile twoTables "a.toml" = .ok (({} : Config).merge firstTable) := by
    rw [ofFile, readConfig_twoTables.1]
    rfl
  have ofBoth : ofFiles twoTables ["a.toml", "b.toml"] =
      .ok ([firstTable, { search := some true }].foldl merge {}) :=
    foldlM_readConfig (.cons readConfig_twoTables.1 (.cons readConfig_twoTables.2 .nil)) {}
  have same := kept twoTables "a.toml" "b.toml" earlier entries _ _ .search isTable' isTable
    ofFirst ofBoth (unmentioned _ (by decide))
  cases same

end Config

end Folio
