import Folio.Markup.Reference

namespace Folio
namespace Markup

/-!
# Escaping, and taking the text out of markup

Text is written with three characters escaped and the value of an attribute with four.  Stripping
goes the other way: tags are dropped and references decoded, which leaves the text a reader sees.
-/

/-- A character of a text, as markup writes it. -/
def escapeTextChar (c : Char) : List Char :=
  if c = '&' then "&amp;".toList
  else if c = '<' then "&lt;".toList
  else if c = '>' then "&gt;".toList
  else [c]

/-- A character of a quoted value, as markup writes it. -/
def escapeValueChar (c : Char) : List Char :=
  if c = '"' then "&quot;".toList else escapeTextChar c

def escapeTextList (cs : List Char) : List Char := cs.flatMap escapeTextChar

def escapeValueList (cs : List Char) : List Char := cs.flatMap escapeValueChar

def escapeText (s : String) : String := String.ofList (escapeTextList s.toList)

def escapeValue (s : String) : String := String.ofList (escapeValueList s.toList)

/-- Drop everything from a `<` to the next `>`; a `<` that no `>` follows stays.  The flag says
whether the reader is inside a tag. -/
def dropTags : Bool → List Char → List Char
  | _, [] => []
  | true, c :: cs => dropTags (c != '>') cs
  | false, c :: cs =>
    if c = '<' ∧ '>' ∈ cs then dropTags true cs else c :: dropTags false cs

/-- The text that a reader of markup sees. -/
def stripTags (markup : String) : String :=
  String.ofList (decodeStrict (dropTags false markup.toList))

end Markup
end Folio
