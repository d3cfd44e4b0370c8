import Folio.Config.ConfigFile
import Folio.Files.FileStore
import Folio.Page.Renderer

namespace Folio

/-!
# Configuration

The settings of a run are built in layers: what holds when nothing is said, then files in order,
then single overrides, then flags.  A layer changes what it mentions and nothing else; the tables of
languages and of variables are merged key by key.
-/

structure Config where
  inputDir : Option String := none
  outputDir : String := "build"
  jobs : Option Nat := none
  highlightCode : Bool := true
  removeCommonIndent : Bool := true
  imageMaxWidth : Nat := 720
  /-- Languages by extension, on top of the usual ones. -/
  languages : Dict String := Dict.empty
  vars : Variables := .empty
  /-- Whether the search index is written, if anything was said about it. -/
  search : Option Bool := none

/-- Why there is no configuration, or not the one asked for. -/
inductive ConfigError where
  | unreadable (path : String) (error : FileError)
  | withoutExtension (path : String)
  | unsupported (path : String)
  | refused (form : ConfigNotation) (path : String) (error : ContentError)
  | notAnOverride (text : String)
  | unknownKey (key : String)
  | notAFlag (key value : String)
  | notANumber (key value : String)
  | invalidNames (names : InvalidNames)
  | inputMissing
  | inputNotADirectory (path : String)
  deriving DecidableEq

def ConfigNotation.name : ConfigNotation → String
  | json => "JSON"
  | toml => "TOML"

namespace ConfigError

def reason : ConfigError → String
  | unreadable path e => "Failed to read config file: " ++ path ++ ": " ++ e.message
  | withoutExtension path => "Config file has no extension: " ++ path
  | unsupported path => "Unsupported config file format: " ++ path
  | refused form path _ => "Failed to parse " ++ form.name ++ " config from " ++ path
  | notAnOverride text =>
    "Invalid config override format: '" ++ text ++ "'. Expected KEY=VALUE"
  | unknownKey key =>
    "Unknown configuration key: '" ++ key ++ "'. See documentation for supported keys."
  | notAFlag key value =>
    "Invalid boolean value for '" ++ key ++ "': '" ++ value ++
      "'. Expected true/false, yes/no, or 1/0"
  | notANumber key value =>
    "Invalid value for '" ++ key ++ "': '" ++ value ++ "'. Expected a positive integer"
  | invalidNames names => names.message
  | inputMissing => "An input directory must be provided."
  | inputNotADirectory path => "Input directory does not exist: " ++ path

def message : ConfigError → String
  | invalidNames names => "Invalid variables: " ++ names.message
  | e => "Configuration error: " ++ e.reason

/-- The names that made a file be refused. -/
def refusedNames? : ConfigError → Option InvalidNames
  | refused _ _ (.invalidNames names) => some names
  | _ => none

end ConfigError

/-- The notation that the extension of a file stands for. -/
def ConfigNotation.ofExtension? (extension : String) : Option ConfigNotation :=
  match Text.lowercase extension with
  | "json" => some .json
  | "toml" => some .toml
  | _ => none

def FileStore.readConfig (fs : FileStore) (path : String) : Except ConfigError ConfigFile := do
  let content ← (fs.readText path).mapError (.unreadable path)
  match PathName.extension? path with
  | none => .error (.withoutExtension path)
  | some extension =>
    match ConfigNotation.ofExtension? extension with
    | none => .error (.unsupported path)
    | some form => (ConfigFile.parse form content).mapError (.refused form path)

namespace Config

/-- Give a language to an extension, which is written in small letters. -/
def setLanguage (c : Config) (extension language : String) : Config :=
  { c with languages := c.languages.insert (Text.lowercase extension) language }

/-- Lay a file over a configuration. -/
def merge (c : Config) (file : ConfigFile) : Config where
  inputDir := file.inputDir.or c.inputDir
  outputDir := file.outputDir.getD c.outputDir
  jobs := file.jobs.or c.jobs
  highlightCode := file.highlightCode.getD c.highlightCode
  removeCommonIndent := file.removeCommonIndent.getD c.removeCommonIndent
  imageMaxWidth := file.imageMaxWidth.getD c.imageMaxWidth
  languages :=
    c.languages.insertAll (file.languages.entries.map fun e => (Text.lowercase e.1, e.2))
  vars := c.vars.merge file.vars
  search := file.search.or c.search

def ofFile (fs : FileStore) (path : String) : Except ConfigError Config :=
  (fs.readConfig path).map ({} : Config).merge

/-- The configuration of several files, each laid over those in front of it. -/
def ofFiles (fs : FileStore) (paths : List String) : Except ConfigError Config :=
  paths.foldlM (fun c path => (fs.readConfig path).map c.merge) {}

/-! ## Overrides -/

/-- The truth that a word stands for, in letters of any case. -/
def flagOf? (word : String) : Option Bool :=
  let word := Text.lowercase word
  if ["true", "yes", "1"].contains word then some true
  else if ["false", "no", "0"].contains word then some false
  else none

def readFlag (key value : String) : Except ConfigError Bool :=
  match flagOf? value with
  | some b => .ok b
  | none => .error (.notAFlag key value)

/-- A number up to a bound, in digits; a plus may stand in front of them. -/
def numberOf? (bound : Nat) (text : String) : Option Nat :=
  let digits := match text.toList with
    | '+' :: ds => ds
    | ds => ds
  if !digits.isEmpty && digits.all Char.isDigit && decimalNumber digits ≤ bound then
    some (decimalNumber digits)
  else none

def readNumber (bound : Nat) (key value : String) : Except ConfigError Nat :=
  match numberOf? bound value with
  | some n => .ok n
  | none => .error (.notANumber key value)

def setVariable (c : Config) (name value : String) : Except ConfigError Config :=
  match c.vars.insert name value with
  | .ok vars => .ok { c with vars }
  | .error names => .error (.invalidNames names)

/-- Override a setting whose key begins with the name of a table. -/
def overrideEntry (c : Config) (key value : String) : Except ConfigError Config :=
  match Text.dropFront? "languages.".toList key.toList with
  | some extension => .ok (c.setLanguage (String.ofList extension) value)
  | none =>
    match Text.dropFront? "variables.".toList key.toList with
    | some name => c.setVariable (String.ofList name) value
    | none => .error (.unknownKey key)

/-- Override one setting.  An empty value unsets a setting that may be unset. -/
def override (c : Config) (key value : String) : Except ConfigError Config :=
  match key with
  | "input_dir" => .ok { c with inputDir := if value.isEmpty then none else some value }
  | "output_dir" => .ok { c with outputDir := value }
  | "jobs" =>
    if value.isEmpty then .ok { c with jobs := none }
    else (readNumber ConfigFile.maxJobs key value).map fun n => { c with jobs := some n }
  | "highlight_code" => (readFlag key value).map fun b => { c with highlightCode := b }
  | "remove_common_indent" => (readFlag key value).map fun b => { c with removeCommonIndent := b }
  | "image_max_width" =>
    (readNumber ConfigFile.maxImageWidth key value).map fun n => { c with imageMaxWidth := n }
  | "search.enable" => (readFlag key value).map fun b => { c with search := some b }
  | _ => c.overrideEntry key value

/-- Split an override at its first equals sign; blanks around the two parts do not count. -/
def splitOverride? (text : String) : Option (String × String) :=
  match text.toList.dropWhile (· != '=') with
  | [] => none
  | _ :: value =>
    some (Text.trim (String.ofList (text.toList.takeWhile (· != '='))),
      Text.trim (String.ofList value))

def applyOverride (c : Config) (text : String) : Except ConfigError Config :=
  match splitOverride? text with
  | none => .error (.notAnOverride text)
  | some (key, value) => c.override key value

/-! ## Overriding in place

The overrides of a run are applied to one configuration, which is changed step by step.  When a step
fails, what the steps in front of it have changed stays changed.
-/

/-- Steps that change a configuration. -/
abbrev InPlace (α : Type) := EStateM ConfigError Config α

def setVariableInPlace (name value : String) : InPlace Unit := do
  let dict := (← get).vars.dict.insert name value
  let vars ← MonadExcept.ofExcept ((Variables.ofDict dict).mapError .invalidNames)
  modify fun c => { c with vars }

def overrideEntryInPlace (key value : String) : InPlace Unit :=
  match Text.dropFront? "languages.".toList key.toList with
  | some extension => modify fun c => c.setLanguage (String.ofList extension) value
  | none =>
    match Text.dropFront? "variables.".toList key.toList with
    | some name => setVariableInPlace (String.ofList name) value
    | none => throw (.unknownKey key)

/-- Override one setting of a configuration that is kept. -/
def overrideInPlace (key value : String) : InPlace Unit :=
  match key with
  | "input_dir" =>
    modify fun c => { c with inputDir := if value.isEmpty then none else some value }
  | "output_dir" => modify fun c => { c with outputDir := value }
  | "jobs" => do
    let jobs ←
      if value.isEmpty then pure none
      else some <$> MonadExcept.ofExcept (readNumber ConfigFile.maxJobs key value)
    modify fun c => { c with jobs }
  | "highlight_code" => do
    let b ← MonadExcept.ofExcept (readFlag key value)
    modify fun c => { c with highlightCode := b }
  | "remove_common_indent" => do
    let b ← MonadExcept.ofExcept (readFlag key value)
    modify fun c => { c with removeCommonIndent := b }
  | "image_max_width" => do
    let n ← MonadExcept.ofExcept (readNumber ConfigFile.maxImageWidth key value)
    modify fun c => { c with imageMaxWidth := n }
  | "search.enable" => do
    -- The value is read before the table is made that it is written to.
    let b ← MonadExcept.ofExcept (readFlag key value)
    modify fun c => { c with search := some (c.search.getD true) }
    modify fun c => { c with search := c.search.map fun _ => b }
  | _ => overrideEntryInPlace key value

def applyInPlace (text : String) : InPlace Unit :=
  match splitOverride? text with
  | none => throw (.notAnOverride text)
  | some (key, value) => overrideInPlace key value

/-- The configuration after some steps, and what has made them fail. -/
def ended : EStateM.Result ConfigError Config Unit → Config × Option ConfigError
  | .ok _ c => (c, none)
  | .error e c => (c, some e)

/-- Apply overrides up to the first that fails. -/
def applyOverrides (c : Config) (texts : List String) : Config × Option ConfigError :=
  ended ((texts.forM applyInPlace).run c)

/-- Apply overrides all of which must succeed. -/
def withOverrides (c : Config) (texts : List String) : Except ConfigError Config :=
  match c.applyOverrides texts with
  | (c, none) => .ok c
  | (_, some e) => .error e

/-! ## Discovery and use -/

/-- The names of settings files, seen from a directory, in the order in which they are tried. -/
def fileNames : List String :=
  ["docweave.toml", "docweave.json", ".docweave.toml", ".docweave.json",
    ".config/docweave.toml", ".config/docweave.json"]

def findIn? (fs : FileStore) (directory : String) : Option String :=
  (fileNames.map (PathName.join directory)).find? fs.isFile

/-- The directories that the user's settings are kept in. -/
structure UserDirectories where
  config : Option String := none
  home : Option String := none

/-- The places where a user's settings file may be. -/
def UserDirectories.candidates (u : UserDirectories) : List String :=
  (u.config.toList.flatMap fun d =>
    ["docweave.toml", "docweave.json"].map (PathName.join d)) ++
  u.home.toList.flatMap fun d =>
    ["config.toml", "config.json"].map
      (PathName.join (PathName.join (PathName.join d ".config") "docweave"))

/-- The settings file that is used when none is named: that of the working directory, or else that
of the user. -/
def discover? (fs : FileStore) (user : UserDirectories) : Option String :=
  (findIn? fs fs.workingPath).or (user.candidates.find? fs.pathExists)

/-- The configuration of the named files, or else of the discovered one, with overrides. -/
def load (fs : FileStore) (discovered : Option String) (paths overrides : List String) :
    Except ConfigError Config := do
  let c ←
    if paths.isEmpty then
      match discovered with
      | some path => ofFile fs path
      | none => .ok {}
    else ofFiles fs paths
  c.withOverrides overrides

def searchEnabled (c : Config) : Bool := c.search.getD true

/-- The input directory, which must be there. -/
def checkedInput (c : Config) (fs : FileStore) : Except ConfigError String :=
  match c.inputDir with
  | none => .error .inputMissing
  | some path => if fs.isDirectory path then .ok path else .error (.inputNotADirectory path)

def allLanguages (c : Config) : Dict String :=
  defaultLanguages.insertAll (c.languages.entries.map fun e => (Text.lowercase e.1, e.2))

def renderOptions (c : Config) : RenderOptions where
  highlightCode := c.highlightCode
  removeCommonIndent := c.removeCommonIndent
  imageMaxWidth := c.imageMaxWidth
  languages := c.allLanguages
  vars := c.vars

end Config

end Folio
