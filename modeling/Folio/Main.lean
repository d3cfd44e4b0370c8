import Folio.Site.Program

namespace Folio

/-!
# Running the program

The only part that touches the world.  It takes those files into a store that a run may look at,
runs the program on the store, and carries out the changes.  The embedded sources of a page may be
anywhere, so they are taken in one by one, as the pages name them.
-/

def Location.path (loc : Location) : String := "/" ++ "/".intercalate loc

/-- Take in what stands at a location; of a directory, not what is in it. -/
def FileStore.takeIn (fs : FileStore) (loc : Location) : IO FileStore := do
  if loc.isEmpty || fs.entries.contains loc then return fs
  let path := (← IO.currentDir) / loc.path
  if ← path.isDir then return fs.put loc .directory
  if ← path.pathExists then
    return fs.put loc (.file (String.fromUTF8? (← IO.FS.readBinFile path)))
  return fs

/-- Take in everything on the way to the end of a path, and what stands there. -/
def FileStore.takeInPath (fs : FileStore) (path : String) : IO FileStore := do
  let start := if PathName.isAbsolute path then [] else fs.workingDirectory
  let mut fs := fs
  let mut loc : Location := start
  for piece in PathName.pieces path do
    match fs.step loc piece with
    | .error _ => return fs
    | .ok next =>
      loc := next
      fs ← fs.takeIn loc
  return fs

/-- Take in everything below a location, at most `depth` levels. -/
def FileStore.takeInBelow (fs : FileStore) : (depth : Nat) → Location → IO FileStore
  | 0, _ => return fs
  | depth + 1, loc => do
    let fs ← fs.takeIn loc
    if fs.entry? loc != some .directory then return fs
    let entries ← ((← IO.currentDir) / loc.path).readDir
    entries.foldlM (fun fs e => fs.takeInBelow depth (loc ++ [e.fileName])) fs

/-- Take in everything below the end of a path. -/
def FileStore.takeInTree (fs : FileStore) (path : String) : IO FileStore := do
  let fs ← fs.takeInPath path
  match fs.locate path with
  | .ok loc => fs.takeInBelow 1000 loc
  | .error _ => return fs

/-- A store with the working directory and nothing else. -/
def startStore : IO FileStore := do
  let here ← IO.currentDir
  let loc := (PathName.pieces here.toString).filter (!PathName.isIdle ·)
  let fs : FileStore := { workingDirectory := loc }
  fs.takeInPath here.toString

/-- The directories that the user keeps settings in. -/
def userDirectories : IO Config.UserDirectories := do
  return ⟨← IO.getEnv "XDG_CONFIG_HOME", ← IO.getEnv "HOME"⟩

/-- Take in the settings files that a command line names, or that may be discovered. -/
def takeInSettings (fs : FileStore) (user : Config.UserDirectories) (line : CommandLine) :
    IO FileStore :=
  (line.configFiles ++ Config.fileNames ++ user.candidates).foldlM FileStore.takeInPath fs

/-- Take in the pages of a site, the sources that they embed, and what is in the way of the
output. -/
def takeInSite (tokenizer : Highlighter) (fs : FileStore) (c : Config) : IO FileStore := do
  let some inputDir := c.inputDir | return fs
  let fs ← (← fs.takeInTree inputDir).takeInTree c.outputDir
  let renderer := c.renderOptions.renderer tokenizer fs
  (fs.pagesBelow inputDir).foldlM (fun fs path => do
    let .ok page := fs.readText path | return fs
    ((renderer.beside path).wantedSources (.ofPage page)).foldlM FileStore.takeInPath fs) fs

/-! ## Carrying out a run -/

/-- Make the directories and write the files that a run has added or changed. -/
def carryOut (before after : FileStore) : IO Unit := do
  for (loc, entry) in after.entries.entries do
    if before.entry? loc != some entry then
      let path := (← IO.currentDir) / loc.path
      match entry with
      | .directory => IO.FS.createDirAll path
      | .file (some content) => IO.FS.writeFile path content
      | .file none => pure ()

def report (o : ProgramOutcome) : IO Unit := do
  for n in o.notices do
    IO.eprintln (match n.level with
      | .warning => "WARN " ++ n.message
      | .error => "ERROR " ++ n.message)
  if let some e := o.error then
    if o.exitCode = 0 then IO.println e else IO.eprintln ("Error: " ++ e)

/-- The files that a run looks at. -/
def takeInAll (tokenizer : Highlighter) (args : List String) (user : Config.UserDirectories) :
    IO FileStore := do
  let fs ← startStore
  let .ok line := CommandLine.parse args | return fs
  let fs ← takeInSettings fs user line
  let .ok c := line.config fs (Config.discover? fs user) | return fs
  takeInSite tokenizer fs c

/-- Run the program with the highlighter that a build of it brings. -/
def run (tokenizer : Highlighter) (args : List String) : IO UInt32 := do
  let user ← userDirectories
  let before ← takeInAll tokenizer args user
  let o := runProgram tokenizer args user before
  carryOut before o.files
  report o
  return o.exitCode.toUInt32

end Folio
