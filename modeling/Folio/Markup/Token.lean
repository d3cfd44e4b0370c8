import Folio.Table
import Folio.Markup.Reference
import Folio.Text.Occurrence

namespace Folio
namespace Markup

/-!
# Tokens of a page

A page is read token by token: tags, comments, a document type, and runs of text.  Runs are kept
apart by what tree construction does with them: white space, other characters, and the null
character.  How text is read depends on the element it stands in, which is why the reader is told a
`TextMode` before each token.

Every page can be read: each beginning has a rule, and a tag that the end of the page cuts off is
dropped.
-/

/-- A start or end tag.  Of attributes with one name the first counts. -/
structure Tag where
  name : String
  attrs : Dict String := Dict.empty
  selfClosing : Bool := false

structure DocumentType where
  name : Option String := none
  publicId : Option String := none
  systemId : Option String := none
  /-- Set when the declaration is broken. -/
  broken : Bool := false

inductive Token where
  | documentType (d : DocumentType)
  | startTag (tag : Tag)
  | endTag (tag : Tag)
  | comment (text : String)
  /-- A run of white space. -/
  | blank (text : String)
  /-- A run of other characters. -/
  | chars (text : String)
  /-- A null character in the text of the page. -/
  | null
  | endOfPage

/-- How the text in front of the next token is read. -/
inductive TextMode where
  /-- Markup and character references. -/
  | markup
  /-- Character references only, up to the end tag of the element named. -/
  | escapable (name : String)
  /-- Neither, up to the end tag of the element named. -/
  | verbatim (name : String)
  /-- A script, up to its end tag. -/
  | script
  /-- The rest of the page. -/
  | rest
  deriving DecidableEq

/-- The white space of markup: tabulator, line feed, form feed and space. -/
def isMarkupSpace (c : Char) : Bool := c == '\t' || c == '\n' || c == '\x0c' || c == ' '

def endsTagName (c : Char) : Bool := isMarkupSpace c || c == '/' || c == '>'

def nullToReplacement (c : Char) : Char := if c = '\x00' then replacementChar else c

def nameChar (c : Char) : Char := (nullToReplacement c).toLower

/-- Line ends of all kinds become line feeds, and a byte order mark at the start is dropped. -/
def normalizePage (cs : List Char) : List Char :=
  lineEnds (if cs.head? = some '\ufeff' then cs.drop 1 else cs)
where
  lineEnds : List Char → List Char
    | [] => []
    | '\r' :: '\n' :: rest => '\n' :: lineEnds rest
    | c :: rest => (if c = '\r' then '\n' else c) :: lineEnds rest

/-- White space between the tags.  A carriage return counts too: line ends are line feeds by then,
but a character reference may still name one. -/
def isTextSpace (c : Char) : Bool := isMarkupSpace c || c == '\r'

/-- Cut a text into runs.  Neighbouring runs of white space and of other characters alternate; each
null character stands alone. -/
def textRuns (cs : List Char) : List Token :=
  (cs.splitBy fun a b => isTextSpace a == isTextSpace b && a != '\x00' && b != '\x00').map
    fun run => match run with
      | [] => .blank ""
      | c :: _ =>
        if c = '\x00' then .null
        else if isTextSpace c then .blank (String.ofList run)
        else .chars (String.ofList run)

/-- Whether the end tag of the element `name` begins here; the less-than sign has been read. -/
def endTagFollows (name : List Char) : List Char → Bool
  | '/' :: cs =>
    (cs.take name.length).map Char.toLower == name && (cs.drop name.length).head?.any endsTagName
  | _ => false

/-- Text up to the end tag of the element `name`, and the rest. -/
def splitAtEndTag (name : List Char) : List Char → List Char × List Char
  | [] => ([], [])
  | c :: cs =>
    if c = '<' ∧ endTagFollows name cs then ([], c :: cs)
    else
      let r := splitAtEndTag name cs
      (c :: r.1, r.2)

/-- Where the reader of a script stands: in plain script text, in a comment after some number of
hyphens, or in a script element inside a comment. -/
inductive ScriptState where
  | plain
  | comment (hyphens : Nat)
  | nested (hyphens : Nat)

def scriptName : List Char := "script".toList

/-- Whether the name of the script element and its end stand here. -/
def scriptNameFollows (cs : List Char) : Bool :=
  (cs.take 6).map Char.toLower == scriptName && (cs.drop 6).head?.any endsTagName

/-- The text of a script, and the rest.  A comment in a script may hold script elements of its own,
whose end tags do not end the script. -/
def splitScript : ScriptState → List Char → List Char × List Char
  | _, [] => ([], [])
  | state, c :: cs =>
    let continues := fun (next : ScriptState) =>
      let r := splitScript next cs
      (c :: r.1, r.2)
    match state with
    | .plain =>
      if c = '<' ∧ endTagFollows scriptName cs then ([], c :: cs)
      else if c = '<' ∧ cs.take 3 = "!--".toList then continues (.comment 0)
      else continues .plain
    | .comment hyphens =>
      if c = '-' then continues (.comment (hyphens + 1))
      else if c = '>' ∧ 2 ≤ hyphens then continues .plain
      else if c = '<' ∧ endTagFollows scriptName cs then ([], c :: cs)
      else if c = '<' ∧ scriptNameFollows cs then continues (.nested 0)
      else continues (.comment 0)
    | .nested hyphens =>
      if c = '-' then continues (.nested (hyphens + 1))
      else if c = '>' ∧ 2 ≤ hyphens then continues .plain
      else if c = '<' ∧ cs.head? = some '/' ∧ scriptNameFollows (cs.drop 1) then
        continues (.comment 0)
      else continues (.nested 0)

/-- The body of a comment, and what follows it.  The end of the page ends a comment too. -/
def commentBody : List Char → List Char × List Char
  | [] => ([], [])
  | '-' :: '-' :: '>' :: cs => ([], cs)
  | '-' :: '-' :: '!' :: '>' :: cs => ([], cs)
  | ['-'] => ([], [])
  | ['-', '-'] => ([], [])
  | ['-', '-', '!'] => ([], [])
  | c :: cs =>
    let r := commentBody cs
    (nullToReplacement c :: r.1, r.2)

/-- A comment after its opening, which may end at once. -/
def readComment : List Char → List Char × List Char
  | '>' :: cs => ([], cs)
  | '-' :: '>' :: cs => ([], cs)
  | cs => commentBody cs

/-- Text up to a greater-than sign, read as a comment. -/
def brokenComment (cs : List Char) : List Char × List Char :=
  ((cs.takeWhile (· != '>')).map nullToReplacement, (cs.dropWhile (· != '>')).drop 1)

/-! ## Tags and declarations -/

inductive TagState where
  /-- Between attributes. -/
  | between
  /-- In a name; its characters are collected last first. -/
  | name (read : List Char)
  /-- After a name and white space. -/
  | named (read : List Char)
  /-- After an equals sign. -/
  | equals (read : List Char)
  /-- In a quoted value. -/
  | quoted (read : List Char) (quote : Char) (value : List Char)
  /-- In a value without quotes. -/
  | bare (read : List Char) (value : List Char)
  /-- After the closing quote of a value. -/
  | closed
  /-- After a slash. -/
  | slash

/-- Add an attribute; its name and value were collected last character first. -/
def addAttr (attrs : Dict String) (name value : List Char) : Dict String :=
  attrs.insertNew (String.ofList name.reverse)
    (String.ofList (decodeValue value.reverse))

/-- The attributes of a tag up to its end, whether it closes itself, and the rest of the page;
nothing if the page ends first. -/
def readAttrs : TagState → Dict String → List Char → Option (Dict String × Bool × List Char)
  | _, _, [] => none
  | state, attrs, c :: cs =>
    let fresh := fun (attrs : Dict String) =>
      if isMarkupSpace c then readAttrs .between attrs cs
      else if c = '/' then readAttrs .slash attrs cs
      else if c = '>' then some (attrs, false, cs)
      else readAttrs (.name [nameChar c]) attrs cs
    match state with
    | .between => fresh attrs
    | .closed => fresh attrs
    | .slash => if c = '>' then some (attrs, true, cs) else fresh attrs
    | .name n =>
      if isMarkupSpace c then readAttrs (.named n) attrs cs
      else if c = '/' then readAttrs .slash (addAttr attrs n []) cs
      else if c = '>' then some (addAttr attrs n [], false, cs)
      else if c = '=' then readAttrs (.equals n) attrs cs
      else readAttrs (.name (nameChar c :: n)) attrs cs
    | .named n =>
      if c = '=' then readAttrs (.equals n) attrs cs
      else if isMarkupSpace c then readAttrs (.named n) attrs cs
      else fresh (addAttr attrs n [])
    | .equals n =>
      if isMarkupSpace c then readAttrs (.equals n) attrs cs
      else if c = '"' ∨ c = '\'' then readAttrs (.quoted n c []) attrs cs
      else if c = '>' then some (addAttr attrs n [], false, cs)
      else readAttrs (.bare n [nullToReplacement c]) attrs cs
    | .quoted n quote v =>
      if c = quote then readAttrs .closed (addAttr attrs n v) cs
      else readAttrs (.quoted n quote (nullToReplacement c :: v)) attrs cs
    | .bare n v =>
      if isMarkupSpace c then readAttrs .between (addAttr attrs n v) cs
      else if c = '>' then some (addAttr attrs n v, false, cs)
      else readAttrs (.bare n (nullToReplacement c :: v)) attrs cs

def readTag (cs : List Char) : Option (Tag × List Char) :=
  let name := (cs.takeWhile fun c => !endsTagName c).map nameChar
  (readAttrs .between Dict.empty (cs.dropWhile fun c => !endsTagName c)).map fun r =>
    (⟨String.ofList name, r.1, r.2.1⟩, r.2.2)

def skipDeclaration (cs : List Char) : List Char := (cs.dropWhile (· != '>')).drop 1

/-- A quoted identifier after its opening quote: its text, whether the closing quote was found, and
the rest, which starts at a greater-than sign if that came first. -/
def readQuoted (quote : Char) : List Char → List Char × Bool × List Char
  | [] => ([], false, [])
  | c :: cs =>
    if c = quote then ([], true, cs)
    else if c = '>' then ([], false, c :: cs)
    else
      let r := readQuoted quote cs
      (nullToReplacement c :: r.1, r.2)

/-- The system identifier of a declaration, if one stands here, and the end. -/
def readSystemId (d : DocumentType) (required : Bool) (cs : List Char) : DocumentType × List Char :=
  match cs.dropWhile isMarkupSpace with
  | [] => ({ d with broken := true }, [])
  | c :: cs =>
    if c = '>' then ({ d with broken := d.broken || required }, cs)
    else if c = '"' ∨ c = '\'' then
      let (text, ended, rest) := readQuoted c cs
      let d := { d with systemId := some (String.ofList text) }
      if !ended then ({ d with broken := true }, skipDeclaration rest)
      else match rest.dropWhile isMarkupSpace with
        | [] => ({ d with broken := true }, [])
        | c :: cs => (d, skipDeclaration (c :: cs))
    else ({ d with broken := true }, skipDeclaration (c :: cs))

/-- The identifiers of a declaration after its name. -/
def readDocumentIds (d : DocumentType) (cs : List Char) : DocumentType × List Char :=
  match cs.dropWhile isMarkupSpace with
  | [] => ({ d with broken := true }, [])
  | '>' :: cs => (d, cs)
  | cs =>
    let keyword := (cs.take 6).map Char.toLower
    if keyword = "public".toList then
      match (cs.drop 6).dropWhile isMarkupSpace with
      | [] => ({ d with broken := true }, [])
      | c :: cs =>
        if c = '"' ∨ c = '\'' then
          let (text, ended, rest) := readQuoted c cs
          let d := { d with publicId := some (String.ofList text) }
          if ended then readSystemId d false rest
          else ({ d with broken := true }, skipDeclaration rest)
        else ({ d with broken := true }, skipDeclaration (c :: cs))
    else if keyword = "system".toList then readSystemId d true (cs.drop 6)
    else ({ d with broken := true }, skipDeclaration cs)

/-- A document type declaration after its keyword. -/
def readDocumentType (cs : List Char) : DocumentType × List Char :=
  match cs.dropWhile isMarkupSpace with
  | [] => ({ broken := true }, [])
  | '>' :: cs => ({ broken := true }, cs)
  | cs =>
    let ends := fun c => isMarkupSpace c || c == '>'
    let name := (cs.takeWhile fun c => !ends c).map nameChar
    readDocumentIds { name := some (String.ofList name) } (cs.dropWhile fun c => !ends c)

/-! ## The next token -/

/-- A declaration or comment after `<!`; sections of character data count only inside drawings and
formulas. -/
def readDeclaration (characterData : Bool) (cs : List Char) : List Token × List Char :=
  if cs.take 2 = "--".toList then
    let r := readComment (cs.drop 2)
    ([.comment (String.ofList r.1)], r.2)
  else if (cs.take 7).map Char.toLower = "doctype".toList then
    let r := readDocumentType (cs.drop 7)
    ([.documentType r.1], r.2)
  else if characterData ∧ cs.take 7 = "[CDATA[".toList then
    let r := splitCharacterData (cs.drop 7)
    (textRuns r.1, r.2)
  else
    let r := brokenComment cs
    ([.comment (String.ofList r.1)], r.2)
where
  splitCharacterData : List Char → List Char × List Char
    | [] => ([], [])
    | ']' :: ']' :: '>' :: cs => ([], cs)
    | c :: cs =>
      let r := splitCharacterData cs
      (c :: r.1, r.2)

/-- What a less-than sign begins: tokens and the rest of the page. -/
def readMarkup (characterData : Bool) (cs : List Char) : List Token × List Char :=
  match cs with
  | '!' :: rest => readDeclaration characterData rest
  | '?' :: _ =>
    let r := brokenComment cs
    ([.comment (String.ofList r.1)], r.2)
  | '/' :: [] => ([.chars "</"], [])
  | '/' :: c :: rest =>
    if c.isAlpha then
      match readTag (c :: rest) with
      | some (tag, rest) => ([.endTag tag], rest)
      | none => ([], [])
    else if c = '>' then ([], rest)
    else
      let r := brokenComment (c :: rest)
      ([.comment (String.ofList r.1)], r.2)
  | c :: rest =>
    if c.isAlpha then
      match readTag (c :: rest) with
      | some (tag, rest) => ([.startTag tag], rest)
      | none => ([], [])
    else ([.chars "<"], c :: rest)
  | [] => ([.chars "<"], [])

/-- The next tokens of a page and its rest: a run of text, or one piece of markup. -/
def readTokens (mode : TextMode) (characterData : Bool) (cs : List Char) : List Token × List Char :=
  match mode with
  | .markup =>
    match cs with
    | '<' :: rest => readMarkup characterData rest
    | _ => (textRuns (decodeText (cs.takeWhile (· != '<'))), cs.dropWhile (· != '<'))
  | .escapable name =>
    let r := splitAtEndTag name.toList cs
    if r.1.isEmpty then readMarkup false (r.2.drop 1)
    else (textRuns (decodeText (r.1.map nullToReplacement)), r.2)
  | .verbatim name =>
    let r := splitAtEndTag name.toList cs
    if r.1.isEmpty then readMarkup false (r.2.drop 1)
    else (textRuns (r.1.map nullToReplacement), r.2)
  | .script =>
    let r := splitScript .plain cs
    if r.1.isEmpty then readMarkup false (r.2.drop 1)
    else (textRuns (r.1.map nullToReplacement), r.2)
  | .rest => (textRuns (cs.map nullToReplacement), [])

end Markup
end Folio
