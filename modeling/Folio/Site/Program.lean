import Folio.CommandLine
import Folio.Site.Generation

namespace Folio

/-!
# The program

A run of the program is a function from its arguments, the user's directories and the files there
are to the files there are afterwards.  The highlighter with the grammars comes from outside.
-/

/-- What is wrong with a command line, or what was asked for in it. -/
def UsageError.message : UsageError → String
  | unknownArgument argument => "unexpected argument '" ++ argument ++ "' found"
  | valueMissing option => "a value is required for '" ++ option ++ "' but none was supplied"
  | badValue option value => "invalid value '" ++ value ++ "' for '" ++ option ++ "'"
  | repeated option => "the argument '" ++ option ++ "' cannot be used multiple times"
  | unexpectedValue option value =>
    "unexpected value '" ++ value ++ "' for '" ++ option ++ "' found; no more were expected"
  | helpWanted =>
    "docweave: woven HTML documentation pages\n\nUsage: docweave [OPTIONS]\n\nOptions: " ++
      "-v, --verbose; -c, --config-file <PATH>; --config <KEY=VALUE>; -i, --input-dir <PATH>; " ++
      "-o, --output-dir <PATH>; -p, --jobs <N>; --no-highlight; -h, --help; -V, --version"
  | versionWanted => "docweave 0.3.0"

def runProgram (tokenizer : Highlighter) (args : List String) (user : Config.UserDirectories)
    (fs : FileStore) : ProgramOutcome :=
  match CommandLine.parse args with
  | .error e => ⟨fs, [], e.exitCode, some e.message⟩
  | .ok line =>
    match line.config fs (Config.discover? fs user) with
    | .error e => ⟨fs, [], 1, some e.message⟩
    | .ok c => (c.generateSite tokenizer fs).toProgram

end Folio
