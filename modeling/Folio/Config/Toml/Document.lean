import Folio.Config.Toml.Scalar
import Folio.Config.Toml.Tree

namespace Folio
namespace Toml

/-!
# TOML: values and lines

A TOML text is a sequence of lines: headings, keys with values, comments.  Arrays and tables between
brackets or braces may go on over several lines.
-/

def skipComment? (cs : List Char) : Option (List Char) :=
  let text := cs.takeWhile fun c => c != '\n' && c != '\r'
  if text.any isControl then none else some (cs.drop text.length)

/-- Skip blanks, line breaks and comments. -/
def skipLines : Nat → List Char → Option (List Char)
  | 0, _ => none
  | fuel + 1, cs =>
    match skipBlanks cs with
    | '#' :: cs => (skipComment? cs).bind (skipLines fuel)
    | '\n' :: cs => skipLines fuel cs
    | '\r' :: '\n' :: cs => skipLines fuel cs
    | cs => some cs

mutual

/-- A value, `depth` levels of which may still be opened. -/
def value : Nat → Nat → Reader Datum
  | 0, _, _ => none
  | fuel + 1, depth, cs =>
    match cs with
    | '[' :: cs =>
      if depth = 0 then none
      else (elements fuel (depth - 1) cs).map fun r => (.list r.1, r.2)
    | '\x7b' :: cs =>
      if depth = 0 then none
      else (inlineEntries fuel (depth - 1) [] cs).map fun r => (.table (sortedEntries r.1), r.2)
    | cs => scalar cs

/-- The elements of an array, up to and with its closing bracket. -/
def elements : Nat → Nat → Reader (List Datum)
  | 0, _, _ => none
  | fuel + 1, depth, cs => do
    match ← skipLines (fuel + 1) cs with
    | ']' :: cs => return ([], cs)
    | cs =>
      let (v, cs) ← value fuel depth cs
      match ← skipLines (fuel + 1) cs with
      | ',' :: cs =>
        let (vs, cs) ← elements fuel depth cs
        return (v :: vs, cs)
      | ']' :: cs => return ([v], cs)
      | _ => none

/-- The entries of a table between braces, up to and with the closing brace. -/
def inlineEntries : Nat → Nat → Entries → Reader Entries
  | 0, _, _, _ => none
  | fuel + 1, depth, entries, cs => do
    match ← skipLines (fuel + 1) cs with
    | '\x7d' :: cs => return (entries, cs)
    | cs =>
      let (path, cs) ← key maxDepth cs
      let (v, cs) ← value fuel depth (skipBlanks (← expect? '=' cs))
      let entries ← addValue path v entries
      match ← skipLines (fuel + 1) cs with
      | ',' :: cs => inlineEntries fuel depth entries cs
      | '\x7d' :: cs => return (entries, cs)
      | _ => none

end

/-! ## Lines -/

/-- What has been built so far, and the heading that keys belong under. -/
structure Progress where
  entries : Entries := []
  heading : List String := []

/-- Read a heading, or a key with its value, into what has been built. -/
def statement (fuel : Nat) (p : Progress) (cs : List Char) : Option (Progress × List Char) :=
  match cs with
  | '[' :: '[' :: cs => do
    let (path, cs) ← key maxDepth cs
    let cs ← expect? ']' cs
    let cs ← expect? ']' cs
    let entries ← beginNext path p.entries
    return (⟨entries, path⟩, cs)
  | '[' :: cs => do
    let (path, cs) ← key maxDepth cs
    let cs ← expect? ']' cs
    let entries ← beginTable path p.entries
    return (⟨entries, path⟩, cs)
  | cs => do
    let (path, cs) ← key maxDepth cs
    let (v, cs) ← value fuel maxDepth (skipBlanks (← expect? '=' cs))
    let entries ← addUnder p.heading path v p.entries
    return ({ p with entries }, cs)

/-- What follows the end of a line, on which only a comment may still stand. -/
def endLine? (cs : List Char) : Option (List Char) := do
  let cs ← match skipBlanks cs with
    | '#' :: cs => skipComment? cs
    | cs => some cs
  if cs.isEmpty then return [] else lineBreak? cs

/-- Read lines to the end of the text. -/
def lines : Nat → Progress → List Char → Option Progress
  | 0, _, _ => none
  | fuel + 1, p, cs =>
    match skipBlanks cs with
    | [] => some p
    | c :: rest =>
      if c = '#' ∨ c = '\n' ∨ c = '\r' then (endLine? (c :: rest)).bind (lines fuel p)
      else do
        let (p, cs) ← statement (fuel + 1) p (c :: rest)
        lines fuel p (← endLine? cs)

/-- A mark that some programs put in front of texts. -/
def byteOrderMark : Char := '\uFEFF'

/-- Read a settings file.  Every step takes at least one character, but for a few that come with
one. -/
def read (text : String) : Layout :=
  let cs := match text.toList with
    | c :: cs => if c = byteOrderMark then cs else c :: cs
    | [] => []
  match lines (2 * cs.length + 2) {} cs with
  | some p => .table (sortedEntries p.entries) true
  | none => .unreadable

end Toml
end Folio
