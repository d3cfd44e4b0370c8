import Mathlib.Data.List.Forall2
import Folio.Proofs.Config.InPlace

namespace Folio

/-!
# Layers of settings

The configuration of a run is told by its layers without a look at how they are laid over each
other.  A key has the value that is given to it by the highest layer that says something about it:
the flags, or else the last override of the key, or else the last file that sets it, or else what
holds when nothing is said.
-/

/-- What the last of some layers says that says anything. -/
def lastSaid? {α β : Type} (says? : α → Option β) (layers : List α) : Option β :=
  layers.reverse.findSome? says?

theorem lastSaid?_cons {α β : Type} (says? : α → Option β) (first : α) (later : List α) :
    lastSaid? says? (first :: later) = (lastSaid? says? later).or (says? first) := by
  rw [lastSaid?, List.reverse_cons, List.findSome?_append, List.findSome?_singleton, lastSaid?]

theorem lastSaid?_append_cons {α β : Type} {says? : α → Option β} {earlier later : List α}
    (silent : ∀ layer ∈ later, says? layer = none) (layer : α) :
    lastSaid? says? (earlier ++ layer :: later) =
      (says? layer).or (lastSaid? says? earlier) := by
  have nothing : later.reverse.findSome? says? = none :=
    List.findSome?_eq_none_iff.mpr fun layer member => silent layer (List.mem_reverse.mp member)
  rw [lastSaid?, List.reverse_append, List.reverse_cons, List.findSome?_append,
    List.findSome?_append, nothing, Option.none_or, List.findSome?_singleton, lastSaid?]

/-- Where each layer gives a value what it says of it, or else leaves it, the last layer that says
something of it is heard. -/
theorem foldl_eq_lastSaid? {α β σ : Type} {says? : α → Option β} {step : σ → α → σ}
    (value : σ → β) (told : ∀ s layer, value (step s layer) = (says? layer).getD (value s))
    (s : σ) (layers : List α) :
    value (layers.foldl step s) = (lastSaid? says? layers).getD (value s) := by
  induction layers generalizing s with
  | nil => rfl
  | cons layer later inductionHypothesis =>
      rw [List.foldl_cons, inductionHypothesis, told, lastSaid?_cons, Option.getD_or]

namespace Config

/-- Files that load are laid over the configuration in order. -/
theorem foldlM_readConfig {fs : FileStore} {paths : List String} {files : List ConfigFile}
    (loaded : List.Forall₂ (fun path file => fs.readConfig path = .ok file) paths files)
    (c : Config) :
    paths.foldlM (fun c path => (fs.readConfig path).map c.merge) c =
      .ok (files.foldl merge c) := by
  induction loaded generalizing c with
  | nil => rfl
  | cons first _ inductionHypothesis =>
      rw [List.foldlM_cons, first]
      exact inductionHypothesis _

theorem valueAt_foldl_merge {files : List ConfigFile}
    (apart : ∀ file ∈ files, file.ExtensionsApart) (c : Config) (k : ConfigKey) :
    (files.foldl merge c).valueAt k = (lastSaid? (·.says? k) files).getD (c.valueAt k) := by
  induction files generalizing c with
  | nil => rfl
  | cons file later inductionHypothesis =>
      rw [List.forall_mem_cons] at apart
      rw [List.foldl_cons, inductionHypothesis apart.2, valueAt_merge c apart.1, lastSaid?_cons,
        Option.getD_or]

/-- Overrides each of which succeeds succeed one after the other. -/
theorem exists_withOverrides {texts : List String}
    (succeed : ∀ text ∈ texts, ∃ c c' : Config, c.applyOverride text = .ok c') (c : Config) :
    ∃ c', c.withOverrides texts = .ok c' ∧
      ∀ k, c'.valueAt k = (lastSaid? (overrideSays? · k) texts).getD (c.valueAt k) := by
  induction texts generalizing c with
  | nil => exact ⟨c, rfl, fun _ => rfl⟩
  | cons text later inductionHypothesis =>
      rw [List.forall_mem_cons] at succeed
      rcases succeed with ⟨⟨_, succeeds⟩, laterSucceed⟩
      rcases exists_applyOverride_eq_ok_iff.mpr (exists_applyOverride_eq_ok_iff.mp succeeds) with
        ⟨next, applied⟩
      rcases inductionHypothesis laterSucceed next with ⟨c', laterApplied, values⟩
      refine ⟨c', ?_, ?_⟩
      · rw [withOverrides, applyOverrides_cons_of_ok applied]
        exact laterApplied
      · intro k
        rw [values, valueAt_of_applyOverride_eq_ok applied, lastSaid?_cons, Option.getD_or]

end Config

/-! ## All layers -/

namespace CommandLine

/-- What the layers of a run say about a key, the highest of them first. -/
def layersSay? (line : CommandLine) (files : List ConfigFile) (k : ConfigKey) : Option k.Value :=
  ((line.says? k).or (lastSaid? (overrideSays? · k) line.configOverrides)).or
    (lastSaid? (·.says? k) files)

/-- There is a configuration for files that load and overrides that succeed, and each of its keys is
told by the highest layer. -/
theorem config_resolves {line : CommandLine} {fs : FileStore} {discovered : Option String}
    {files : List ConfigFile} (named : line.configFiles ≠ [])
    (loaded : List.Forall₂ (fun path file => fs.readConfig path = .ok file)
      line.configFiles files)
    (apart : ∀ file ∈ files, file.ExtensionsApart)
    (succeed : ∀ text ∈ line.configOverrides, ∃ c c' : Config, c.applyOverride text = .ok c') :
    ∃ c, line.config fs discovered = .ok c ∧
      ∀ k, c.valueAt k = (line.layersSay? files k).getD (({} : Config).valueAt k) := by
  rcases Config.exists_withOverrides succeed (files.foldl Config.merge {}) with
    ⟨c, overridden, values⟩
  have merged : Config.ofFiles fs line.configFiles = .ok (files.foldl Config.merge {}) :=
    Config.foldlM_readConfig loaded {}
  have isEmpty : line.configFiles.isEmpty = false := List.isEmpty_eq_false_iff.mpr named
  refine ⟨line.applyTo c, ?_, ?_⟩
  · have loads : Config.load fs discovered line.configFiles line.configOverrides = .ok c := by
      unfold Config.load
      rw [isEmpty, if_neg Bool.false_ne_true, merged]
      exact overridden
    rw [config, loads]
    rfl
  · intro k
    rw [Config.valueAt_applyTo, values, Config.valueAt_foldl_merge apart, layersSay?,
      Option.getD_or, Option.getD_or]

/-- Two files. -/
def twoFiles : FileStore where
  entries := Table.ofList
    [(["one.toml"], .file (some ("output_dir = \"one\"\njobs = 2\nimage_max_width = 640\n" ++
        "[search]\nenable = false\n[languages]\nRS = \"rust\"\npy = \"python\"\n" ++
        "[variables]\nA = \"1\"\nB = \"1\"\nC = \"1\"\n"))),
      (["two.json"], .file (some ("\x7b\"output_dir\": \"two\", " ++
        "\"languages\": \x7b\"Py\": \"python3\"\x7d, " ++
        "\"variables\": \x7b\"B\": \"2\", \"C\": \"2\"\x7d\x7d")))]

/-- What the two files say. -/
def twoContents : List ConfigFile :=
  [{ outputDir := some "one", jobs := some 2, imageMaxWidth := some 640, search := some false,
     languages := Dict.ofList [("RS", "rust"), ("py", "python")],
     vars := ⟨Dict.ofList [("A", "1"), ("B", "1"), ("C", "1")], by decide +kernel⟩ },
    { outputDir := some "two", languages := Dict.ofList [("Py", "python3")],
      vars := ⟨Dict.ofList [("B", "2"), ("C", "2")], by decide +kernel⟩ }]

/-- A line that names the two files and contradicts them and itself. -/
def contradictingLine : CommandLine where
  configFiles := ["one.toml", "two.json"]
  configOverrides := ["variables.C = 3", "jobs=4", "highlight_code=yes", "jobs=", "input_dir=in"]
  inputDir := some "pages"
  noHighlight := true

/-- Of every key the highest layer is heard. -/
theorem config_resolves_contradictions :
    ∃ c, contradictingLine.config twoFiles none = .ok c ∧
      c.inputDir = some "pages" ∧ c.outputDir = "two" ∧ c.jobs = none ∧
      c.highlightCode = false ∧ c.removeCommonIndent = true ∧ c.imageMaxWidth = 640 ∧
      c.search = some false ∧
      c.languages.get? "rs" = some "rust" ∧ c.languages.get? "py" = some "python3" ∧
      c.vars.get? "A" = some "1" ∧ c.vars.get? "B" = some "2" ∧ c.vars.get? "C" = some "3" := by
  have loaded : List.Forall₂ (fun path file => twoFiles.readConfig path = .ok file)
      contradictingLine.configFiles twoContents :=
    .cons (by decide +kernel) (.cons (by decide +kernel) .nil)
  have succeed : ∀ text ∈ contradictingLine.configOverrides,
      ∃ c c' : Config, c.applyOverride text = .ok c' := by
    intro text member
    refine ⟨{}, Config.exists_applyOverride_eq_ok_iff.mpr ?_⟩
    simp only [contradictingLine, List.mem_cons, List.not_mem_nil, or_false] at member
    rcases member with rfl | rfl | rfl | rfl | rfl
    · exact ⟨.valueOf "C", by decide +kernel⟩
    · exact ⟨.jobs, by decide +kernel⟩
    · exact ⟨.highlightCode, by decide +kernel⟩
    · exact ⟨.jobs, by decide +kernel⟩
    · exact ⟨.inputDir, by decide +kernel⟩
  have resolved : ∃ c, contradictingLine.config twoFiles none = .ok c ∧ ∀ k, c.valueAt k =
      (contradictingLine.layersSay? twoContents k).getD (({} : Config).valueAt k) :=
    config_resolves (by decide) loaded (by decide +kernel) succeed
  rcases resolved with ⟨c, loads, resolves⟩
  refine ⟨c, loads, (resolves .inputDir).trans ?_, (resolves .outputDir).trans ?_,
    (resolves .jobs).trans ?_, (resolves .highlightCode).trans ?_,
    (resolves .removeCommonIndent).trans ?_, (resolves .imageMaxWidth).trans ?_,
    (resolves .search).trans ?_, (resolves (.languageOf "rs")).trans ?_,
    (resolves (.languageOf "py")).trans ?_, (resolves (.valueOf "A")).trans ?_,
    (resolves (.valueOf "B")).trans ?_, (resolves (.valueOf "C")).trans ?_⟩
  all_goals decide +kernel

end CommandLine

end Folio
