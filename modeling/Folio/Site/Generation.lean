import Folio.Config.Config
import Folio.Site.Metadata

namespace Folio

/-!
# Generating a site

Every page below the input directory is rendered into a page and a metadata file at the same place
below the output directory.  All pages are read and rendered before the first is written.  A page
that cannot be read or written is reported, and the others are not held up by it.
-/

/-- What became of the pages, named as seen from the input directory. -/
structure SiteReport where
  pages : List String := []
  /-- Pages that failed, with the reason. -/
  failed : List (String × String) := []
  deriving DecidableEq

inductive SiteError where
  | config (error : ConfigError)
  | outputDirectory (path : String) (error : FileError)
  | searchIndex (path : String) (error : FileError)
  deriving DecidableEq

inductive WriteError where
  | directory (path : String) (error : FileError)
  | page (path : String) (error : FileError)
  | metadata (path : String) (error : FileError)
  deriving DecidableEq

namespace SiteError

def message : SiteError → String
  | config e => e.message
  | outputDirectory path e =>
    "Failed to create output directory: " ++ path ++ ": " ++ e.message
  | searchIndex path e =>
    "Failed to write search fragments: " ++ path ++ ": " ++ e.message

end SiteError

namespace WriteError

def message : WriteError → String
  | directory path e => "Failed to create directory: " ++ path ++ ": " ++ e.message
  | page path e => "Failed to write page: " ++ path ++ ": " ++ e.message
  | metadata path e => "Failed to write page metadata: " ++ path ++ ": " ++ e.message

end WriteError

def outputPath (outputDir page : String) : String :=
  PathName.withExtension (PathName.join outputDir page) "html"

def metadataPath (outputDir page : String) : String :=
  PathName.withExtension (outputPath outputDir page) "json"

/-- Where the search records of all pages are written. -/
def searchIndexPath (outputDir : String) : String :=
  PathName.join outputDir "search-fragments.json"

/-- Write a page and its metadata.  What has been written stays written if something fails. -/
def FileStore.writePage (fs : FileStore) (outputDir page : String) (rendered : RenderedPage) :
    FileStore × Option WriteError :=
  let path := outputPath outputDir page
  let made : Except WriteError FileStore := match PathName.parent? path with
    | none => .ok fs
    | some parent => (fs.makeDirectories parent).mapError (WriteError.directory parent)
  match made with
  | .error e => (fs, some e)
  | .ok fs =>
    match fs.writeText path rendered.markup with
    | .error e => (fs, some (.page path e))
    | .ok fs =>
      match fs.writeText (metadataPath outputDir page) (rendered.metadata (pageId page)) with
      | .error e => (fs, some (.metadata (metadataPath outputDir page) e))
      | .ok fs => (fs, none)

/-- How far a run has come. -/
structure SiteRun where
  files : FileStore
  report : SiteReport := {}
  records : List SiteRecord := []
  notices : List Notice := []

namespace SiteRun

/-- Note that a page has failed. -/
def fail (run : SiteRun) (page reason : String) (notice : Notice) : SiteRun :=
  { run with
    report := { run.report with failed := run.report.failed ++ [(page, reason)] }
    notices := run.notices ++ [notice] }

/-- Take up the result of rendering the page at a path. -/
def add (inputDir outputDir : String) (run : SiteRun)
    (result : String × Except String (Noted RenderedPage)) : SiteRun :=
  let page := (PathName.relativeTo? inputDir result.1).getD result.1
  match result.2 with
  | .error reason => run.fail page reason (.unrendered result.1 reason)
  | .ok rendered =>
    let run := { run with notices := run.notices ++ rendered.notices }
    match run.files.writePage outputDir page rendered.value with
    | (files, some e) =>
      { run with files }.fail page e.message (.unwritten page e.message)
    | (files, none) =>
      { run with
        files
        report := { run.report with pages := run.report.pages ++ [page] }
        records := run.records ++ rendered.value.records.map (SiteRecord.mk (pageId page)) }

end SiteRun

/-- The files after a run, and how it ended. -/
structure SiteOutcome where
  files : FileStore
  notices : List Notice := []
  result : Except SiteError SiteReport

namespace Config

/-- Read and render all pages. -/
def renderedPages (c : Config) (tokenizer : Highlighter) (fs : FileStore) (inputDir : String) :
    List (String × Except String (Noted RenderedPage)) :=
  (c.renderOptions.renderer tokenizer fs).renderBatch
    (fun path => (fs.readText path).mapError FileError.message) (fs.pagesBelow inputDir)

/-- Write rendered pages, and the search index if it is wanted. -/
def writePages (c : Config) (fs : FileStore) (inputDir : String)
    (results : List (String × Except String (Noted RenderedPage))) : SiteOutcome :=
  let run := results.foldl (SiteRun.add inputDir c.outputDir) { files := fs }
  if c.searchEnabled then
    let path := searchIndexPath c.outputDir
    match run.files.writeText path (searchIndex run.records) with
    | .ok files => ⟨files, run.notices, .ok run.report⟩
    | .error e => ⟨run.files, run.notices, .error (.searchIndex path e)⟩
  else ⟨run.files, run.notices, .ok run.report⟩

/-- Generate a site.  The tokenizing highlighter is asked only if code is to be highlighted. -/
def generateSite (c : Config) (tokenizer : Highlighter) (fs : FileStore) : SiteOutcome :=
  match c.checkedInput fs with
  | .error e => ⟨fs, [], .error (.config e)⟩
  | .ok inputDir =>
    match fs.makeDirectories c.outputDir with
    | .error e => ⟨fs, [], .error (.outputDirectory c.outputDir e)⟩
    | .ok fs => c.writePages fs inputDir (c.renderedPages tokenizer fs inputDir)

end Config

/-! ## The program -/

/-- The files after a run of the program, what there was to report, and its exit code. -/
structure ProgramOutcome where
  files : FileStore
  notices : List Notice := []
  exitCode : Nat
  /-- Why the run failed. -/
  error : Option String := none

/-- How the run of a configured program ends: well only if no page failed. -/
def SiteOutcome.toProgram (o : SiteOutcome) : ProgramOutcome :=
  match o.result with
  | .error e => ⟨o.files, o.notices, 1, some e.message⟩
  | .ok report =>
    if report.failed.isEmpty then ⟨o.files, o.notices, 0, none⟩
    else
      ⟨o.files, o.notices, 1,
        some (toString report.failed.length ++ " of " ++
          toString (report.failed.length + report.pages.length) ++ " pages failed to render")⟩

end Folio
