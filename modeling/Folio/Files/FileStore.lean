import Folio.Files.PathName
import Folio.Table

namespace Folio

/-!
# A store of files

Files and directories by their place, and the place that relative paths start from.  Paths are
followed step by step, as an operating system does: every step but the last must be a directory, and
a path that ends in a slash names a directory.  A place may be locked, and then nothing is written
or made there.  All changes are values, so that a run of the program is a function from one store to
the next.  Symbolic links are left out: a file or directory stands at one place only, and no page is
found through a link.
-/

inductive FileError where
  | notFound
  | alreadyExists
  | notADirectory
  | isADirectory
  | denied
  /-- The content of the file is not text. -/
  | notText
  deriving DecidableEq

namespace FileError

def message : FileError → String
  | notFound => "No such file or directory (os error 2)"
  | alreadyExists => "File exists (os error 17)"
  | notADirectory => "Not a directory (os error 20)"
  | isADirectory => "Is a directory (os error 21)"
  | denied => "Permission denied (os error 13)"
  | notText => "stream did not contain valid UTF-8"

end FileError

/-- The names of the directories from the root down, and of the file. -/
abbrev Location := List String

/-- What stands at a location: a directory, or a file with its content, if that is text. -/
inductive Entry where
  | directory
  | file (content : Option String)
  deriving DecidableEq

structure FileStore where
  entries : Table Location Entry := Table.empty
  /-- The directory that relative paths start from. -/
  workingDirectory : Location := []
  /-- The places at which the program is not allowed to write a file or to make a directory. -/
  locked : Location → Bool := fun _ => false

namespace FileStore

/-- The path of the directory that relative paths start from. -/
def workingPath (fs : FileStore) : String := "/" ++ "/".intercalate fs.workingDirectory

/-- What stands at a location.  The root is always a directory. -/
def entry? (fs : FileStore) (loc : Location) : Option Entry :=
  if loc = [] then some .directory else fs.entries.get? loc

/-- Go on from a location that must be a directory. -/
def step (fs : FileStore) (loc : Location) (piece : String) : Except FileError Location :=
  match fs.entry? loc with
  | none => .error .notFound
  | some (.file _) => .error .notADirectory
  | some .directory =>
    if PathName.isIdle piece then .ok loc
    else if piece = ".." then .ok loc.dropLast
    else .ok (loc ++ [piece])

/-- The location that a path leads to.  Something need not stand there. -/
def locate (fs : FileStore) (path : String) : Except FileError Location :=
  if path.isEmpty then .error .notFound
  else
    (PathName.pieces path).foldlM fs.step
      (if PathName.isAbsolute path then [] else fs.workingDirectory)

/-- What stands at the end of a path. -/
def lookup? (fs : FileStore) (path : String) : Option Entry :=
  match fs.locate path with
  | .ok loc => fs.entry? loc
  | .error _ => none

def pathExists (fs : FileStore) (path : String) : Bool := (fs.lookup? path).isSome

def isDirectory (fs : FileStore) (path : String) : Bool := fs.lookup? path == some .directory

def isFile (fs : FileStore) (path : String) : Bool :=
  match fs.lookup? path with
  | some (.file _) => true
  | _ => false

/-- The content of the file at the end of a path. -/
def readText (fs : FileStore) (path : String) : Except FileError String := do
  match fs.entry? (← fs.locate path) with
  | none => .error .notFound
  | some .directory => .error .isADirectory
  | some (.file none) => .error .notText
  | some (.file (some content)) => .ok content

/-- What follows a location in a longer one. -/
def below? : Location → Location → Option Location
  | [], loc => some loc
  | _ :: _, [] => none
  | d :: dir, n :: loc => if d = n then below? dir loc else none

/-- The paths of the files at or below a path, written as continuations of it. -/
def filesBelow (fs : FileStore) (path : String) : List String :=
  match fs.locate path with
  | .error _ => []
  | .ok dir =>
    fs.entries.entries.filterMap fun e =>
      match e.2 with
      | .directory => none
      | .file _ => (below? dir e.1).map fun names => names.foldl PathName.join path

/-! ## Changing -/

def put (fs : FileStore) (loc : Location) (entry : Entry) : FileStore :=
  { fs with entries := fs.entries.insert loc entry }

/-- Write a text, into a new file or over an old one. -/
def writeText (fs : FileStore) (path content : String) : Except FileError FileStore := do
  let loc ← fs.locate path
  match fs.entry? loc with
  | some .directory => .error .isADirectory
  | _ => if fs.locked loc then .error .denied else .ok (fs.put loc (.file (some content)))

/-- A path without the slashes at its end. -/
def withoutFinalSlashes (path : String) : String :=
  let text := String.ofList (path.toList.reverse.dropWhile (· == '/')).reverse
  if text.isEmpty && PathName.isAbsolute path then "/" else text

/-- Make one directory; all but the last step of its path must be there. -/
def makeDirectory (fs : FileStore) (path : String) : Except FileError FileStore := do
  let loc ← fs.locate (withoutFinalSlashes path)
  match fs.entry? loc with
  | some _ => .error .alreadyExists
  | none => if fs.locked loc then .error .denied else .ok (fs.put loc .directory)

/-- Make a directory and the directories that it lacks above it, at most `depth` of them.  A
directory that is there already is as good as one that has been made. -/
def makeDirectoriesTo (fs : FileStore) : Nat → String → Except FileError FileStore
  | 0, _ => .error .notFound
  | depth + 1, path =>
    if path.isEmpty then .ok fs
    else
      let accept := fun (fs : FileStore) (e : FileError) =>
        if fs.isDirectory path then .ok fs else .error e
      match fs.makeDirectory path with
      | .ok fs => .ok fs
      | .error .notFound =>
        match PathName.parent? path with
        | none => .error .notFound
        | some parent =>
          match fs.makeDirectoriesTo depth parent with
          | .error e => .error e
          | .ok fs =>
            match fs.makeDirectory path with
            | .ok fs => .ok fs
            | .error e => accept fs e
      | .error e => accept fs e

/-- Make a directory and all that it lacks above it.  A path has no more parents than
characters. -/
def makeDirectories (fs : FileStore) (path : String) : Except FileError FileStore :=
  fs.makeDirectoriesTo (path.length + 1) path

end FileStore

end Folio
