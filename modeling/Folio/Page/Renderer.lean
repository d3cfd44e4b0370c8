import Folio.Notice
import Folio.Page.Anchor
import Folio.Page.Link
import Folio.Page.Outline
import Folio.Page.Permalink
import Folio.Page.SearchRecord

namespace Folio

open Markup

/-!
# Rendering

A page goes through its passes in a fixed order: the hooks of the caller, images, links, permalinks,
embedded sources, code blocks, anchors.  Anchors come last, so that identifiers are given once
nothing else is put in.  Title, outline and search records are read off the finished page; its
markup is printed, and variables are substituted in the print.
-/

structure RenderOptions where
  highlightCode : Bool := true
  removeCommonIndent : Bool := true
  imageMaxWidth : Nat := 720
  /-- The languages of file extensions, which are written in small letters. -/
  languages : Dict String := defaultLanguages
  vars : Variables := .empty

def RenderOptions.withLanguage (o : RenderOptions) (extension language : String) :
    RenderOptions :=
  { o with languages := o.languages.insert (Text.lowercase extension) language }

/-- A pass of the caller's, which may break down. -/
abbrev Hook := Document → Option Document

structure Renderer where
  options : RenderOptions := {}
  highlighting : Highlighting
  hooks : List Hook := []
  images : Option ImageSource := none
  loader : SourceLoader
  /-- The directory that the paths of embedded sources start from. -/
  directory : String := "."

structure RenderedPage where
  markup : String
  title : Option String
  outline : List OutlineEntry
  records : List SearchRecord

namespace RenderOptions

/-- Code goes to a tokenizing highlighter, or is only escaped. -/
def highlighting (o : RenderOptions) (tokenizer : Highlighter) : Highlighting :=
  if o.highlightCode then .ofHighlighter tokenizer else .plain

/-- The renderer with some options that reads embedded sources from files. -/
def renderer (o : RenderOptions) (tokenizer : Highlighter) (fs : FileStore) : Renderer where
  options := o
  highlighting := o.highlighting tokenizer
  loader := fs.loadSource

end RenderOptions

/-- Replace the elements of a page that pass a test, code blocks inside others apart. -/
def Document.replace (d : Document) (p : Element → Bool) (f : Element → Noted (List Node)) :
    Noted Document :=
  let r := Node.replaceIn p
    (fun e notices => ((f e).value, notices ++ (f e).notices)) d.children []
  ⟨{ d with children := r.1 }, r.2⟩

/-- Whether an element stands for an embedded source. -/
def isPlaceholder (e : Element) : Bool := e.tag == "pre" && e.hasAttr embedAttr

def isNamedCode (e : Element) : Bool :=
  e.tag == "pre" && e.hasAttr languageAttr && !e.hasAttr embedAttr

namespace Renderer

variable (r : Renderer)

/-! ## Passes -/

/-- Run the hooks in turn; there is no page if one breaks down. -/
def runHooks (d : Document) : Option Document := r.hooks.foldlM (fun d hook => hook d) d

def substituteImages (d : Document) : Noted Document :=
  match r.images with
  | none => pure d
  | some source =>
    let result := d.substituteImages source r.options.imageMaxWidth
    ⟨result.1, result.2.map .image⟩

/-- The code of a directive, with its language, read from a declared path. -/
def embeddedCode (directive : EmbedDirective) (declared : String) :
    Except EmbedError (String × String) := do
  let source ← (r.loader r.directory declared).mapError .load
  let language ←
    match directive.language.or (languageFor? r.options.languages source.path) with
    | some language => .ok language
    | none => .error (.unknownLanguage declared)
  let code ←
    match directive.excerptId with
    | some id => (Excerpt.extract source.content id).mapError (.excerpt declared)
    | none => .ok source.content
  return (code, language)

def removesIndent (preserveIndent : Bool) : Bool :=
  r.options.removeCommonIndent && !preserveIndent

/-- What stands in place of a placeholder, once its path has been declared. -/
def embedFrom (placeholder : Element) (directive : EmbedDirective) (declared : String) :
    Except EmbedError Element := do
  let (code, language) ← r.embeddedCode directive declared
  let markup ←
    (r.highlighting.highlightBlock (prepareCode (r.removesIndent directive.preserveIndent) code)
      language).mapError (.highlight declared)
  return codeContainer placeholder language markup

/-- Embed the source of a placeholder, or drop the placeholder. -/
def embed (placeholder : Element) : Noted (List Node) :=
  match EmbedDirective.ofElement? placeholder with
  | none => pure [placeholder.toNode]
  | some directive => do
    let declared ← r.options.vars.substitute directive.sourcePath
    match r.embedFrom placeholder directive declared with
    | .ok container => pure [container.toNode]
    | .error e => ⟨[], [.embed e]⟩

/-- Highlight a block of code, or leave it as it is. -/
def highlightBlock (block : Element) : Noted (List Node) :=
  let language := Text.trim ((block.attr? languageAttr).getD "")
  let code :=
    prepareCode (r.removesIndent (flagEnabled block preserveIndentAttr)) block.codeSource
  match r.highlighting.highlightBlock code language with
  | .ok markup => pure [(codeContainer block language markup).toNode]
  | .error e => ⟨[block.toNode], [.highlight language e]⟩

def resolveEmbeds (d : Document) : Noted Document := d.replace isPlaceholder r.embed

def highlightCode (d : Document) : Noted Document := d.replace isNamedCode r.highlightBlock

/-- The passes after the hooks, in order. -/
def runPasses (d : Document) : Noted Document := do
  let d ← r.substituteImages d
  let d ← r.resolveEmbeds d.publishLinks.addPermalinks
  let d ← r.highlightCode d
  return d.assignAnchors

/-- All passes; there is no page if a hook breaks down. -/
def transform (d : Document) : Option (Noted Document) := (r.runHooks d).map r.runPasses

/-- The paths of the sources that the placeholders of a page name. -/
def wantedSources (d : Document) : List String :=
  (((d.pathsOutsideCode isPlaceholder).filterMap d.at?).filterMap EmbedDirective.ofElement?).map
    fun directive =>
      PathName.join r.directory (r.options.vars.substitute directive.sourcePath).value

/-! ## Pages -/

def serialize (d : Document) : Noted String :=
  r.options.vars.substitute (escapeTokens d.print)

/-- What is read off a finished page. -/
def finish (d : Document) : Noted RenderedPage := do
  let markup ← r.serialize d
  return ⟨markup, d.title?, d.outline, d.searchRecords⟩

/-- Render a document; there is no page if a hook breaks down. -/
def renderDocument (d : Document) : Option (Noted RenderedPage) :=
  (r.transform d).map (· >>= r.finish)

def render (page : String) : Option (Noted RenderedPage) := r.renderDocument (.ofPage page)

/-- What stands for a page on which a hook broke down. -/
def brokenPage : RenderedPage :=
  ⟨"<div class=\"error\">Critical error processing page content</div>", none, [], []⟩

/-- Render a page, or what stands for it. -/
def renderSafely (page : String) : Noted RenderedPage :=
  (r.render page).getD ⟨brokenPage, [.brokenPage]⟩

/-- The renderer for a page at a path, whose embedded sources are read from beside it. -/
def beside (path : String) : Renderer :=
  { r with directory := (PathName.parent? path).getD "." }

/-- Render the page at a path. -/
def renderFile (fs : FileStore) (path : String) : Except FileError (Noted RenderedPage) :=
  (fs.readText path).map (r.beside path).renderSafely

/-- Render pages, each on its own; a page that cannot be read is answered with the reason. -/
def renderBatch (read : String → Except String String) (paths : List String) :
    List (String × Except String (Noted RenderedPage)) :=
  paths.map fun path =>
    (path, match read path with
      | .ok page => .ok ((r.beside path).renderSafely page)
      | .error e => .error ("Failed to read file: " ++ e))

end Renderer

def pageExtension : String := "html"

/-- The source pages below a directory, in the order of their paths. -/
def FileStore.pagesBelow (fs : FileStore) (directory : String) : List String :=
  ((fs.filesBelow directory).filter fun path =>
    (PathName.extension? path).any (Text.equalIgnoringCase pageExtension)).mergeSort PathName.le

end Folio
