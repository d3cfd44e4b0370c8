namespace Folio
namespace PathName

/-!
# Names of files

A path is a text whose pieces are separated by slashes.  Empty pieces count for nothing, and neither
does a single dot except in front.  A path is never tidied when it is joined or cut: what was
typed is what is shown.
-/

inductive Component where
  | root
  | here
  | up
  | name (name : String)
  deriving DecidableEq

namespace Component

/-- The kinds of components, in the order in which paths are listed. -/
def rank : Component → Nat
  | root => 0
  | here => 1
  | up => 2
  | name _ => 3

def le : Component → Component → Bool
  | name a, name b => a ≤ b
  | a, b => a.rank ≤ b.rank

def ofPiece (piece : String) : Component :=
  if piece = ".." then up else if piece = "." then here else name piece

def text : Component → String
  | root => "/"
  | here => "."
  | up => ".."
  | name n => n

end Component

/-- The pieces between slashes. -/
def pieces (path : String) : List String := (path.toList.splitOn '/').map String.ofList

def isAbsolute (path : String) : Bool := path.toList.head? == some '/'

/-- Pieces that count for nothing unless they come first. -/
def isIdle (piece : String) : Bool := piece == "" || piece == "."

def components (path : String) : List Component :=
  match pieces path with
  | [] => []
  | first :: rest =>
    let tail := (rest.filter (!isIdle ·)).map Component.ofPiece
    if first = "" then (if isAbsolute path then .root :: tail else tail)
    else Component.ofPiece first :: tail

/-- Drop the pieces at the end that count for nothing; the pieces come last first, and the first
piece of the path stays. -/
def dropIdle : List String → List String
  | [] => []
  | [first] => [first]
  | p :: rest => if isIdle p then dropIdle rest else p :: rest

/-- The last component that is a name. -/
def fileName? (path : String) : Option String :=
  match (components path).getLast? with
  | some (.name n) => some n
  | _ => none

/-- Split a file name at its last dot, if a name stands in front of the dot. -/
def splitExtension (fileName : String) : String × Option String :=
  let cs := fileName.toList.reverse
  let after := cs.takeWhile (· != '.')
  match cs.dropWhile (· != '.') with
  | '.' :: c :: before =>
    (String.ofList (c :: before).reverse, some (String.ofList after.reverse))
  | _ => (fileName, none)

/-- What follows the last dot of the file name. -/
def extension? (path : String) : Option String :=
  (fileName? path).bind fun n => (splitExtension n).2

/-- The file name without its extension. -/
def stem? (path : String) : Option String := (fileName? path).map fun n => (splitExtension n).1

/-- Put pieces, last first, back together. -/
private def rejoin (absolute : Bool) (rev : List String) : String :=
  let text := "/".intercalate rev.reverse
  if text.isEmpty && absolute then "/" else text

/-- The path without its last component; the root and the empty path have none. -/
def parent? (path : String) : Option String :=
  match dropIdle (pieces path).reverse with
  | [] => none
  | [first] => if first = "" then none else some ""
  | _ :: rest => some (rejoin (isAbsolute path) (dropIdle rest))

/-- A path seen from a directory; an absolute path is the same from everywhere. -/
def join (base path : String) : String :=
  if isAbsolute path then path
  else if base.isEmpty || base.toList.getLast? == some '/' then base ++ path
  else base ++ "/" ++ path

/-- The path with another extension; a path without a file name stays as it is. -/
def withExtension (path extension : String) : String :=
  match stem? path with
  | none => path
  | some stem =>
    match dropIdle (pieces path).reverse with
    | [] => path
    | _ :: rest => "/".intercalate ((stem ++ "." ++ extension) :: rest).reverse

/-- What of a list of components follows another. -/
def dropComponents? : List Component → List Component → Option (List Component)
  | [], path => some path
  | _ :: _, [] => none
  | b :: base, c :: path => if b = c then dropComponents? base path else none

/-- The path from a directory to a file below it. -/
def relativeTo? (base path : String) : Option String :=
  (dropComponents? (components base) (components path)).map fun rest =>
    "/".intercalate (rest.map Component.text)

def le (a b : String) : Bool := leList (components a) (components b)
where
  leList : List Component → List Component → Bool
    | [], _ => true
    | _ :: _, [] => false
    | x :: xs, y :: ys => if x = y then leList xs ys else x.le y

end PathName
end Folio
