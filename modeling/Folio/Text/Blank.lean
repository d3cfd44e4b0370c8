namespace Folio
namespace Text

/-!
# White space

White space here is the Unicode property `White_Space`.  Words are the maximal runs of other
characters, and normal text is its words with one space between neighbours.  Trimming comes in two
strengths: of white space, and of line breaks alone.
-/

/-- The characters with the Unicode property `White_Space`. -/
def isBlank (c : Char) : Bool :=
  let n := c.toNat
  (9 ≤ n && n ≤ 13) || n == 0x20 || n == 0x85 || n == 0xA0 || n == 0x1680 ||
    (0x2000 ≤ n && n ≤ 0x200A) || n == 0x2028 || n == 0x2029 || n == 0x202F ||
    n == 0x205F || n == 0x3000

/-- Drop the characters in `p` from both ends. -/
def trimBoth (p : Char → Bool) (cs : List Char) : List Char :=
  ((cs.dropWhile p).reverse.dropWhile p).reverse

/-- Drop the characters in `p` from the end. -/
def trimRight (p : Char → Bool) (cs : List Char) : List Char :=
  (cs.reverse.dropWhile p).reverse

/-- The maximal runs of characters that are not white space. -/
def wordList (cs : List Char) : List (List Char) :=
  (cs.splitOnP isBlank).filter fun w => !w.isEmpty

def words (s : String) : List String := (wordList s.toList).map String.ofList

/-- Every run of white space becomes one space; none is left at the ends. -/
def normalize (s : String) : String :=
  String.ofList ([' '].intercalate (wordList s.toList))

def trim (s : String) : String := String.ofList (trimBoth isBlank s.toList)

def isBlankText (cs : List Char) : Bool := cs.all isBlank

def isLineBreak (c : Char) : Bool := c == '\n' || c == '\r'

/-- Drop the line breaks at both ends and keep every other space. -/
def trimLineBreaks (s : String) : String := String.ofList (trimBoth isLineBreak s.toList)

def trimFinalLineFeeds (s : String) : String := String.ofList (trimRight (· == '\n') s.toList)

/-- Compare two texts letter by letter, with the ASCII letters of either case alike. -/
def equalIgnoringCase (a b : String) : Bool :=
  a.toList.map Char.toLower == b.toList.map Char.toLower

end Text
end Folio
