namespace Folio
namespace Text

/-!
# Lines

Two readings of a text as lines.  A source file read for excerpts has its lines ended by line
feeds, each with at most one carriage return before it.  A code sample whose indentation is
measured may use any of the three line ends.  In both readings the text after the last line end is
a line too, so a text has one line more than it has line ends.
-/

def lineFeedLines (cs : List Char) : List (List Char) := cs.splitOn '\n'

/-- Drop one carriage return from the end of a line. -/
def dropFinalReturn (line : List Char) : List Char :=
  if line.getLast? = some '\r' then line.dropLast else line

/-- The lines between line ends of any kind; a carriage return and a line feed end one line. -/
def anyEndLines : List Char → List (List Char)
  | [] => [[]]
  | '\r' :: '\n' :: rest => [] :: anyEndLines rest
  | c :: rest =>
    if c = '\n' ∨ c = '\r' then [] :: anyEndLines rest
    else (anyEndLines rest).modifyHead (c :: ·)

/-- Lines put back together, a line feed between neighbours. -/
def joinLines (lines : List (List Char)) : List Char := ['\n'].intercalate lines

theorem anyEndLines_ne_nil (cs : List Char) : anyEndLines cs ≠ [] := by
  fun_induction anyEndLines cs with
  | case1 => simp
  | case2 => simp
  | case3 => simp
  | case4 c rest _ _ ih => cases h : anyEndLines rest <;> simp_all

end Text
end Folio
