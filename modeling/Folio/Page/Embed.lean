import Folio.Excerpt
import Folio.Files.FileStore
import Folio.Page.CodeBlock
import Folio.Text.Lowercase

namespace Folio

open Markup

/-!
# Embedded sources

A `pre` with the attribute `data-embed` stands for code in a file.  It may name an excerpt of the
file and the language of the code; else the extension of the file tells the language.
-/

def embedAttr : String := "data-embed"

def excerptAttr : String := "data-fragment"

/-- What a placeholder asks for. -/
structure EmbedDirective where
  /-- The path of the file, with variables in it. -/
  sourcePath : String
  excerptId : Option String
  language : Option String
  preserveIndent : Bool
  deriving DecidableEq

namespace EmbedDirective

/-- The value of an attribute, if it is not blank. -/
def option? (e : Element) (name : String) : Option String :=
  ((e.attr? name).map Text.trim).filter (!·.isEmpty)

/-- The directive of an element, if it is a placeholder. -/
def ofElement? (e : Element) : Option EmbedDirective :=
  (e.attr? embedAttr).map fun sourcePath =>
    { sourcePath
      excerptId := option? e excerptAttr
      language := option? e languageAttr
      preserveIndent := flagEnabled e preserveIndentAttr }

end EmbedDirective

/-- A file that was read, and where. -/
structure LoadedSource where
  path : String
  content : String
  deriving DecidableEq

inductive LoadError where
  | notFound (declared resolved : String)
  | notAFile (declared : String)
  | unreadable (declared : String) (error : FileError)
  deriving DecidableEq

namespace LoadError

def message : LoadError → String
  | notFound declared resolved =>
    "relative path " ++ declared ++ ", resolved to " ++ resolved ++ " does not exist"
  | notAFile declared => "path " ++ declared ++ " must point to a file"
  | unreadable declared e => "failed to read " ++ declared ++ ": " ++ e.message

end LoadError

/-- What reads the source of a path that a page in some directory declares. -/
abbrev SourceLoader := (directory declared : String) → Except LoadError LoadedSource

def FileStore.loadSource (fs : FileStore) : SourceLoader := fun directory declared =>
  let path := PathName.join directory declared
  if !fs.pathExists path then .error (.notFound declared path)
  else if !fs.isFile path then .error (.notAFile declared)
  else
    match fs.readText path with
    | .ok content => .ok ⟨path, content⟩
    | .error e => .error (.unreadable declared e)

def defaultLanguages : Dict String :=
  Dict.ofList
    [("html", "markup"), ("htm", "markup"), ("xml", "xml"), ("js", "javascript"),
      ("json", "json"), ("css", "css"), ("java", "java"), ("sh", "bash"), ("ts", "typescript")]

/-- The language of a file by its extension, written in small letters. -/
def languageFor? (languages : Dict String) (path : String) : Option String :=
  ((PathName.extension? path).map Text.lowercase).bind languages.get?

/-- Why a placeholder is dropped. -/
inductive EmbedError where
  | load (error : LoadError)
  | excerpt (declared : String) (error : ExcerptError)
  | unknownLanguage (declared : String)
  | highlight (declared : String) (error : HighlightError)
  deriving DecidableEq

namespace EmbedError

def message : EmbedError → String
  | load e => e.message
  | excerpt declared e => "fragment error in " ++ declared ++ ": " ++ e.message
  | unknownLanguage declared => "unknown language for " ++ declared
  | highlight declared e => "failed to highlight " ++ declared ++ ": " ++ e.message

end EmbedError

end Folio
