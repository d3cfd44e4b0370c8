import Folio.Markup.Node
import Folio.Page.Highlight
import Folio.Text.Indent
import Folio.Text.Occurrence

namespace Folio

open Markup

/-!
# Code blocks

Code is shown in a block of its own: a container, a `pre` that keeps the identifier and the classes
of the block it replaces, and in it the highlighted code.  Highlighters leave a bare `<` in two
kinds of tokens, which is escaped once the whole page has been printed.
-/

def languageAttr : String := "data-language"

def preserveIndentAttr : String := "data-preserve-indent"

/-- Whether an attribute is there and does not say `false`. -/
def flagEnabled (e : Element) (name : String) : Bool :=
  (e.attr? name).any fun value => !Text.equalIgnoringCase (Text.trim value) "false"

/-- The code as it is highlighted: without line breaks at its ends, and without the indentation that
its lines share, if that is to be removed. -/
def prepareCode (removeIndent : Bool) (code : String) : String :=
  Text.trimLineBreaks (if removeIndent then Text.removeCommonIndent code else code)

/-- Highlighted code without line feeds at its end. -/
def Highlighting.highlightBlock (h : Highlighting) (code language : String) :
    Except HighlightError String :=
  (h.highlight code language).map Text.trimFinalLineFeeds

def containerClass : String := "highlight"

/-- The classes of the block in place of `block`, with its language. -/
def codeClasses (block : Element) (language : String) : String :=
  " ".intercalate
    ((((block.attr? "class").toList ++ ["language-" ++ language]).map Text.trim).filter
      (!·.isEmpty))

/-- The container that shows highlighted code in place of `block`. -/
def codeContainer (block : Element) (language markup : String) : Element :=
  let code : Element :=
    { tag := "code", attrs := Dict.ofList [(languageAttr, language)], children := [.raw markup] }
  let pre : Element :=
    { tag := "pre"
      attrs := Dict.ofList
        ((block.id?.map fun id => ("id", id)).toList ++ [("class", codeClasses block language)])
      children := [code.toNode] }
  { tag := "div", attrs := Dict.ofList [("class", containerClass)], children := [pre.toNode] }

/-- Change a text from left to right.  The rule says what stands for the front of a text, and how
many characters it stands for; `skip` characters have been dealt with already. -/
def replaceFronts (rule : List Char → Option (List Char × Nat)) : Nat → List Char → List Char
  | _, [] => []
  | skip + 1, _ :: cs => replaceFronts rule skip cs
  | 0, c :: cs =>
    match rule (c :: cs) with
    | some (text, count) => text ++ replaceFronts rule (count - 1) cs
    | none => c :: replaceFronts rule 0 cs

def punctuationStart : List Char := "<span class=\"token punctuation\">".toList

def doctypeStart : List Char := "<span class=\"token doctype\">".toList

def escapedLess : List Char := "&lt;".toList

/-- Escape the `<` of a punctuation token that holds nothing more than the beginning of a tag. -/
def escapePunctuation (cs : List Char) : Option (List Char × Nat) :=
  let holds (token : String) :=
    (Text.dropFront? (punctuationStart ++ token.toList ++ "</span>".toList) cs).isSome
  if holds "<" || holds "</" then
    some (punctuationStart ++ escapedLess, punctuationStart.length + 1)
  else none

/-- Escape the `<` at the beginning of a document type token. -/
def escapeDoctype (cs : List Char) : Option (List Char × Nat) :=
  if (Text.dropFront? (doctypeStart ++ ['<']) cs).isSome then
    some (doctypeStart ++ escapedLess, doctypeStart.length + 1)
  else none

/-- Escape the `<` that highlighters leave bare. -/
def escapeTokens (markup : String) : String :=
  String.ofList (replaceFronts escapeDoctype 0 (replaceFronts escapePunctuation 0 markup.toList))

end Folio
