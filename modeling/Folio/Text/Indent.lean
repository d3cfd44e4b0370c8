import Folio.Text.Blank
import Folio.Text.Line

namespace Folio
namespace Text

/-!
# Common indentation

A code sample cut out of a file carries the indentation of its surroundings.  The first line that
is not blank decides whether the sample is indented with spaces or with tabs; what every non-blank
line has of that character at its start is dropped from all lines.
-/

/-- The number of copies of `c` at the start of a line. -/
def indentWidth (c : Char) (line : List Char) : Nat := (line.takeWhile (· == c)).length

/-- The character a sample is indented with: a space or a tab, if its first non-blank line starts
with one. -/
def indentChar? (lines : List (List Char)) : Option Char :=
  match lines.find? fun line => !isBlankText line with
  | some (c :: _) => if c = ' ' ∨ c = '\t' then some c else none
  | _ => none

/-- The indentation that all non-blank lines share. -/
def commonWidth (c : Char) (lines : List (List Char)) : Nat :=
  (((lines.filter fun line => !isBlankText line).map (indentWidth c)).min?).getD 0

/-- Drop the common indentation.  Lines are told apart by any line end and written with line feeds;
a text whose first non-blank line is not indented is left as it is. -/
def removeCommonIndent (s : String) : String :=
  let lines := anyEndLines s.toList
  match indentChar? lines with
  | none => s
  | some c =>
    let width := commonWidth c lines
    String.ofList (joinLines (lines.map (·.drop width)))

end Text
end Folio
