import Folio.Config.Config

namespace Folio

/-!
# The command line

Arguments are read from left to right.  An option takes its value from the same argument or from the
next one; several switches of one letter may share an argument.  A value is checked once the next
option or the end of the line is reached, and the first mistake is reported.  Flags have the last
word over files and overrides.
-/

structure CommandLine where
  verbose : Bool := false
  configFiles : List String := []
  configOverrides : List String := []
  inputDir : Option String := none
  outputDir : Option String := none
  jobs : Option Nat := none
  noHighlight : Bool := false
  deriving DecidableEq

/-- Why a command line is not carried out: a mistake, or the wish to be told something. -/
inductive UsageError where
  | unknownArgument (argument : String)
  | valueMissing (option : String)
  | badValue (option value : String)
  | repeated (option : String)
  | unexpectedValue (option value : String)
  | helpWanted
  | versionWanted
  deriving DecidableEq

namespace UsageError

/-- The exit code for a command line that is not carried out. -/
def exitCode : UsageError → Nat
  | helpWanted => 0
  | versionWanted => 0
  | _ => 2

end UsageError

namespace CommandLine

/-- Options without a value. -/
inductive Switch where
  | verbose
  | noHighlight
  | help
  | version
  deriving DecidableEq

/-- Options with a value. -/
inductive Setting where
  | configFile
  | configOverride
  | inputDir
  | outputDir
  | jobs
  deriving DecidableEq

/-- What an option is for. -/
inductive Name where
  | switch (which : Switch)
  | setting (which : Setting)
  deriving DecidableEq

def longOptions : List (String × Name) :=
  [("verbose", .switch .verbose), ("config-file", .setting .configFile),
    ("config", .setting .configOverride), ("input-dir", .setting .inputDir),
    ("output-dir", .setting .outputDir), ("jobs", .setting .jobs),
    ("no-highlight", .switch .noHighlight), ("help", .switch .help),
    ("version", .switch .version)]

def shortOptions : List (Char × Name) :=
  [('v', .switch .verbose), ('c', .setting .configFile), ('i', .setting .inputDir),
    ('o', .setting .outputDir), ('p', .setting .jobs), ('h', .switch .help),
    ('V', .switch .version)]

def Setting.name : Setting → String
  | configFile => "--config-file"
  | configOverride => "--config"
  | inputDir => "--input-dir"
  | outputDir => "--output-dir"
  | jobs => "--jobs"

/-- A path as the value of an option; an empty one is no value. -/
def pathValue (s : Setting) (value : String) : Except UsageError String :=
  if value.isEmpty then .error (.valueMissing s.name) else .ok value

/-- Take the value of a setting.  Files and overrides add up; of the others one is enough. -/
def take (c : CommandLine) (s : Setting) (value : String) : Except UsageError CommandLine :=
  match s with
  | .configFile =>
    (pathValue s value).map fun path => { c with configFiles := c.configFiles ++ [path] }
  | .configOverride => .ok { c with configOverrides := c.configOverrides ++ [value] }
  | .inputDir =>
    if c.inputDir.isSome then .error (.repeated s.name)
    else (pathValue s value).map fun path => { c with inputDir := some path }
  | .outputDir =>
    if c.outputDir.isSome then .error (.repeated s.name)
    else (pathValue s value).map fun path => { c with outputDir := some path }
  | .jobs =>
    if c.jobs.isSome then .error (.repeated s.name)
    else
      match Config.numberOf? ConfigFile.maxJobs value with
      | some n => .ok { c with jobs := some n }
      | none => .error (.badValue s.name value)

/-- Turn a switch on, which can be done once. -/
def turnOn (c : CommandLine) : Switch → Except UsageError CommandLine
  | .verbose =>
    if c.verbose then .error (.repeated "--verbose") else .ok { c with verbose := true }
  | .noHighlight =>
    if c.noHighlight then .error (.repeated "--no-highlight")
    else .ok { c with noHighlight := true }
  | .help => .error .helpWanted
  | .version => .error .versionWanted

/-- A setting that has been named, and its value once that has been seen. -/
structure Pending where
  setting : Setting
  value : Option String := none

/-- What has been read: options that were taken, and one that is still pending. -/
structure Progress where
  line : CommandLine := {}
  pending : Option Pending := none

namespace Progress

def resolve (p : Progress) : Except UsageError CommandLine :=
  match p.pending with
  | none => .ok p.line
  | some ⟨s, none⟩ => .error (.valueMissing s.name)
  | some ⟨s, some value⟩ => p.line.take s value

def turnOn (p : Progress) (s : Switch) : Except UsageError Progress := do
  let line ← p.resolve
  return ⟨← line.turnOn s, none⟩

/-- Take a setting whose value stands in the same argument. -/
def take (p : Progress) (s : Setting) (value : String) : Except UsageError Progress := do
  let line ← p.resolve
  return ⟨← line.take s value, none⟩

/-- Wait for the value of a setting in the next argument. -/
def await (p : Progress) (s : Setting) : Except UsageError Progress := do
  let line ← p.resolve
  return ⟨line, some ⟨s, none⟩⟩

/-- Read the letters of an argument with one dash. -/
def letters : Progress → List Char → Except UsageError Progress
  | p, [] => .ok p
  | p, c :: cs =>
    match shortOptions.lookup c with
    | none => .error (.unknownArgument (String.ofList ['-', c]))
    | some (.switch s) =>
      match p.turnOn s with
      | .ok p => letters p cs
      | .error e => .error e
    | some (.setting s) =>
      match cs with
      | [] => p.await s
      | '=' :: value => p.take s (String.ofList value)
      | value => p.take s (String.ofList value)

/-- Read an argument with two dashes, which have been dropped. -/
def word (p : Progress) (cs : List Char) : Except UsageError Progress :=
  let name := String.ofList (cs.takeWhile (· != '='))
  match longOptions.lookup name, cs.dropWhile (· != '=') with
  | none, _ => .error (.unknownArgument ("--" ++ name))
  | some (.switch s), [] => p.turnOn s
  | some (.switch _), _ :: value => .error (.unexpectedValue ("--" ++ name) (String.ofList value))
  | some (.setting s), [] => p.await s
  | some (.setting s), _ :: value => p.take s (String.ofList value)

/-- Read an argument that is no option: the value of a setting that waits for one. -/
def plain (p : Progress) (argument : String) : Except UsageError Progress :=
  match p.pending with
  | some ⟨s, none⟩ => .ok { p with pending := some ⟨s, some argument⟩ }
  | _ => .error (.unknownArgument argument)

def argument (p : Progress) (arg : String) : Except UsageError Progress :=
  match arg.toList with
  | '-' :: '-' :: cs => p.word cs
  | '-' :: c :: cs => p.letters (c :: cs)
  | _ => p.plain arg

/-- Read arguments to the end.  Nothing may follow two dashes that stand alone. -/
def arguments : Progress → List String → Except UsageError CommandLine
  | p, [] => p.resolve
  | p, arg :: rest =>
    if arg = "--" then
      match rest with
      | [] => p.resolve
      | next :: _ => .error (.unknownArgument next)
    else
      match p.argument arg with
      | .ok p => arguments p rest
      | .error e => .error e

end Progress

def parse (args : List String) : Except UsageError CommandLine := Progress.arguments {} args

/-- Lay the flags over a configuration. -/
def applyTo (line : CommandLine) (c : Config) : Config :=
  { c with
    inputDir := line.inputDir.or c.inputDir
    outputDir := line.outputDir.getD c.outputDir
    jobs := line.jobs.or c.jobs
    highlightCode := c.highlightCode && !line.noHighlight }

def config (line : CommandLine) (fs : FileStore) (discovered : Option String) :
    Except ConfigError Config :=
  (Config.load fs discovered line.configFiles line.configOverrides).map line.applyTo

end CommandLine

end Folio
