import Folio.Text.Line
import Folio.Text.Occurrence
import Folio.Text.WordChar

namespace Folio

/-!
# Excerpts of source files

A line that holds `fragment-start` or `fragment-end`, followed by an identifier in braces, marks a
region of a file, whatever the comment syntax around it.  An identifier may mark several regions;
its excerpt is made of the lines of all of them.  Lines in a region that carry any other marker are
left out, so that nested and overlapping regions can be marked freely.
-/

inductive ExcerptError where
  /-- An end marker stands outside every region. -/
  | endBeforeStart (id : String)
  /-- The last region opened is never closed. -/
  | unterminated (id : String)
  /-- No region is ever opened. -/
  | notFound (id : String)
  deriving DecidableEq

namespace ExcerptError

def message : ExcerptError → String
  | endBeforeStart id =>
    "Expecting start of fragment marker for " ++ id ++ ", found end of fragment marker."
  | unterminated id => "End marker for fragment " ++ id ++ " not found, fragment is not closed."
  | notFound id => "Fragment " ++ id ++ " not found."

end ExcerptError

namespace Excerpt

open Text

def startLabel : List Char := "fragment-start\x7b".toList

def endLabel : List Char := "fragment-end\x7b".toList

def startMarker (id : String) : List Char := startLabel ++ id.toList ++ ['}']

def endMarker (id : String) : List Char := endLabel ++ id.toList ++ ['}']

def opens (id : String) (line : List Char) : Bool := occursIn (startMarker id) line

def closes (id : String) (line : List Char) : Bool := occursIn (endMarker id) line

def isNameChar (c : Char) : Bool := isWordChar c || c == '-'

/-- Whether a text begins with a name and a closing brace. -/
def nameAndBrace (cs : List Char) : Bool :=
  !(cs.takeWhile isNameChar).isEmpty && (cs.dropWhile isNameChar).head? == some '}'

/-- Whether a marker of a plain identifier stands at the front of a text. -/
def markerAtFront (cs : List Char) : Bool :=
  ((dropFront? startLabel cs).any nameAndBrace) || ((dropFront? endLabel cs).any nameAndBrace)

/-- Whether a line carries a marker of any plain identifier. -/
def isMarkerLine : List Char → Bool
  | [] => false
  | c :: cs => markerAtFront (c :: cs) || isMarkerLine cs

/-- Where the reader stands: outside every region, having seen one or not, or inside one. -/
inductive Position where
  | outside (found : Bool)
  | inside
  deriving DecidableEq

/-- The lines of the regions of `id`, markers left out. -/
def regionLines (id : String) : Position → List (List Char) → Except ExcerptError (List (List Char))
  | .outside true, [] => .ok []
  | .outside false, [] => .error (.notFound id)
  | .inside, [] => .error (.unterminated id)
  | .outside found, line :: rest =>
    if opens id line then regionLines id .inside rest
    else if closes id line then .error (.endBeforeStart id)
    else regionLines id (.outside found) rest
  | .inside, line :: rest =>
    if closes id line then regionLines id (.outside true) rest
    else if isMarkerLine line then regionLines id .inside rest
    else (line :: ·) <$> regionLines id .inside rest

/-- The lines of a source file, each without the carriage return of its line end. -/
def sourceLines (content : String) : List (List Char) :=
  (lineFeedLines content.toList).map dropFinalReturn

/-- The excerpt `id` of a file.  An empty file has only empty excerpts. -/
def extract (content id : String) : Except ExcerptError String :=
  if content.isEmpty then .ok ""
  else (fun lines => String.ofList (joinLines lines)) <$>
    regionLines id (.outside false) (sourceLines content)

end Excerpt

end Folio
