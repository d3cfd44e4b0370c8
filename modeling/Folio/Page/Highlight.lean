import Folio.Markup.Escape
import Folio.Table

namespace Folio

open Markup

/-!
# Highlighting

A highlighter turns code into markup and knows some languages by name.  Pages name languages in more
ways than highlighters do, so a table of other names stands in front of it.  Code in a language that
the highlighter does not know is only escaped, unless the caller asks for strictness.  Highlighters
that tokenize have grammars, which are not part of this library: whoever renders pages brings one.
-/

inductive HighlightError where
  | unsupported (language : String)
  | failed (reason : String)
  deriving DecidableEq

namespace HighlightError

def message : HighlightError → String
  | unsupported language =>
    "Language '" ++ language ++ "' is not supported by this highlighter"
  | failed reason => "Highlighting failed: " ++ reason

end HighlightError

structure Highlighter where
  name : String
  supports : (language : String) → Bool
  highlight : (code language : String) → Except HighlightError String

namespace Highlighter

/-- The highlighter that escapes code in any language. -/
def plain : Highlighter where
  name := "Plain"
  supports := fun _ => true
  highlight := fun code _ => .ok (escapeText code)

end Highlighter

/-- A highlighter with other names for its languages. -/
structure Highlighting where
  highlighter : Highlighter
  aliases : Dict String
  strict : Bool := false

namespace Highlighting

/-- The names that pages use for languages with another name. -/
def commonAliases : Dict String :=
  Dict.ofList
    [("markup", "html"), ("js", "javascript"), ("ts", "typescript"), ("py", "python"),
      ("sh", "bash"), ("shell", "bash"), ("yml", "yaml")]

def ofHighlighter (highlighter : Highlighter) : Highlighting := ⟨highlighter, commonAliases, false⟩

def plain : Highlighting := ofHighlighter .plain

def withName (h : Highlighting) (other language : String) : Highlighting :=
  { h with aliases := h.aliases.insert other language }

/-- The name under which the highlighter knows a language. -/
def resolve (h : Highlighting) (language : String) : String :=
  (h.aliases.get? language).getD language

/-- Highlight code in a language that a page names. -/
def highlight (h : Highlighting) (code language : String) : Except HighlightError String :=
  let name := h.resolve language
  if h.highlighter.supports name then h.highlighter.highlight code name
  else if h.strict then .error (.unsupported name)
  else Highlighter.plain.highlight code name

/-- A short account of the set-up, for people. -/
def summary (h : Highlighting) : String :=
  "SyntaxManager \x7b backend: \"" ++ h.highlighter.name ++ "\", aliases: " ++
    toString h.aliases.entries.length ++ ", strict: " ++ toString h.strict ++ " \x7d"

end Highlighting

end Folio
