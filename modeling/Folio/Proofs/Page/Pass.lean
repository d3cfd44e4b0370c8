import Folio.Page.Renderer
import Folio.Proofs.Markup.Substitution

namespace Folio

open Markup

/-!
# The passes of a rendering

After the hooks of the caller a page goes through six passes.  Three of them put elements in the
place of others: images, embedded sources, code blocks.  Each of these is a substitution, and what
the two that replace code blocks report is read off the blocks, in document order.  The last pass
assigns anchors; the page that it starts from has a name here, since what is said about a finished
page is mostly said by comparing the two.
-/

namespace Document

theorem value_replace (d : Document) (p : Element → Bool) (f : Element → Noted (List Node)) :
    (d.replace p f).value =
      { d with children := Node.substituteIn p (fun e => (f e).value) d.children } := by
  refine congrArg (fun children => { d with children }) ?_
  apply Node.fst_replaceIn
  intro e notices
  rfl

theorem notices_replace (d : Document) {p : Element → Bool} (f : Element → Noted (List Node))
    (codeOnly : ∀ e, p e = true → e.isCodeBlock) :
    (d.replace p f).notices = Node.collectIn Element.isOutsideCode
      (fun e => if p e then (f e).notices else []) d.children := by
  rw [replace, ← List.nil_append (Node.collectIn _ _ _)]
  apply Node.snd_replaceIn
  · intro e notices
    rfl
  · exact codeOnly

theorem fst_placeImages (d : Document) (files : Dict String)
    (results : List (String × Except ImageWarning FluidImage)) :
    (d.placeImages files results).1 =
      { d with
        children := Node.substituteIn
          (fun e => isImage e && (ImageSource.find? results e).isSome)
          (fun img => ((ImageSource.find? results img).map fun image =>
            (image.markup img).toNode).toList)
          d.children } := by
  refine congrArg (fun children => { d with children }) ?_
  apply Node.fst_replaceIn
  intro e warnings
  rfl

theorem snd_placeImages (d : Document) (files : Dict String)
    (results : List (String × Except ImageWarning FluidImage)) :
    (d.placeImages files results).2 = d.images.filterMap (sourceWarning? files) ++
      results.filterMap fun r => match r.2 with
        | .ok _ => none
        | .error w => some w := by
  apply Node.snd_replaceIn_of_keeps
  intro e warnings
  rfl

theorem fst_substituteImages (d : Document) (source : ImageSource) (maxWidth : Nat) :
    (d.substituteImages source maxWidth).1 =
      { d with
        children := Node.substituteIn
          (fun e => isImage e &&
            (ImageSource.find? (source.results maxWidth (d.imageSources source.files)) e).isSome)
          (fun img =>
            ((ImageSource.find? (source.results maxWidth (d.imageSources source.files)) img).map
              fun image => (image.markup img).toNode).toList)
          d.children } :=
  d.fst_placeImages source.files _

end Document

theorem isCodeBlock_of_isPlaceholder (e : Element) (placeholder : isPlaceholder e = true) :
    e.isCodeBlock :=
  (Bool.and_eq_true_iff.mp placeholder).1

theorem isCodeBlock_of_isNamedCode (e : Element) (named : isNamedCode e = true) :
    e.isCodeBlock :=
  (Bool.and_eq_true_iff.mp (Bool.and_eq_true_iff.mp named).1).1

namespace Markup.Node

theorem publishLinksIn_eq_map (nodes : List Node) :
    publishLinksIn nodes = nodes.map publishLinks := by
  induction nodes with
  | nil => rfl
  | cons n nodes inductionHypothesis => rw [publishLinksIn, inductionHypothesis, List.map_cons]

theorem addPermalinksIn_eq_map (sectionId : Option String) (nodes : List Node) :
    addPermalinksIn sectionId nodes = nodes.map (addPermalinks sectionId) := by
  induction nodes with
  | nil => rfl
  | cons n nodes inductionHypothesis => rw [addPermalinksIn, inductionHypothesis, List.map_cons]

/-- A permalink holds nothing that a replacement of code blocks would change. -/
theorem substitute_permalink {p : Element → Bool} (f : Element → List Node)
    (codeOnly : ∀ e, p e = true → e.isCodeBlock) (id : String) :
    (permalink id).toNode.substitute p f = [(permalink id).toNode] := by
  have fails : ¬ p (permalink id) = true := by
    intro passes
    cases codeOnly _ passes
  have proper : (permalink id).tag ≠ "pre" := by
    change "a" ≠ "pre"
    decide
  exact substitute_of_proper fails proper

end Markup.Node

namespace Renderer

variable (r : Renderer)

/-- What image substitution knows about the images of a page. -/
def fluidImages (d : Document) : List (String × Except ImageWarning FluidImage) :=
  match r.images with
  | none => []
  | some source => source.results r.options.imageMaxWidth (d.imageSources source.files)

/-- Whether image substitution replaces an element of a page. -/
def replacesImage (d : Document) (e : Element) : Bool :=
  isImage e && (ImageSource.find? (r.fluidImages d) e).isSome

/-- What image substitution puts in the place of an image of a page. -/
def imageNodes (d : Document) (img : Element) : List Node :=
  ((ImageSource.find? (r.fluidImages d) img).map fun image => (image.markup img).toNode).toList

theorem find?_nil (img : Element) : ImageSource.find? [] img = none := by
  rw [ImageSource.find?]
  cases img.attr? "src" <;> rfl

/-- Without an image source nothing is replaced; with one it is a substitution. -/
theorem value_substituteImages (d : Document) :
    (r.substituteImages d).value =
      { d with children := Node.substituteIn (r.replacesImage d) (r.imageNodes d) d.children } := by
  unfold substituteImages
  cases source : r.images with
  | none =>
      have kept : ∀ e, r.replacesImage d e = false := by
        intro e
        rw [replacesImage, fluidImages, source, find?_nil]
        exact Bool.and_false _
      rw [Node.substituteIn_of_no_passes _ kept]
      rfl
  | some known =>
      have results : r.fluidImages d =
          known.results r.options.imageMaxWidth (d.imageSources known.files) := by
        rw [fluidImages, source]
      unfold replacesImage imageNodes
      rw [results]
      exact d.fst_substituteImages known r.options.imageMaxWidth

/-- A source that can be embedded is shown in a container that is made from the placeholder. -/
theorem exists_codeContainer_of_embedFrom {placeholder container : Element}
    {directive : EmbedDirective} {declared : String}
    (embedded : r.embedFrom placeholder directive declared = .ok container) :
    ∃ language markup, container = codeContainer placeholder language markup := by
  unfold embedFrom at embedded
  cases code : r.embeddedCode directive declared with
  | error e =>
      rw [code] at embedded
      cases embedded
  | ok found =>
      rw [code] at embedded
      cases highlighted : r.highlighting.highlightBlock
          (prepareCode (r.removesIndent directive.preserveIndent) found.1) found.2 with
      | error e => simp [highlighted, Except.mapError, bind, Except.bind] at embedded
      | ok markup =>
          refine ⟨found.2, markup, ?_⟩
          simpa [highlighted, Except.mapError, bind, Except.bind, pure, Except.pure]
            using embedded.symm

/-- What becomes of an element that names a source: it makes way for a container, or for nothing and
a notice that says why. -/
theorem embed_cases {placeholder : Element} {directive : EmbedDirective}
    (asked : EmbedDirective.ofElement? placeholder = some directive) :
    let declared := r.options.vars.substitute directive.sourcePath
    (∃ language markup,
      r.embedFrom placeholder directive declared.value =
        .ok (codeContainer placeholder language markup) ∧
      r.embed placeholder =
        ⟨[(codeContainer placeholder language markup).toNode], declared.notices⟩) ∨
    ∃ e, r.embedFrom placeholder directive declared.value = .error e ∧
      r.embed placeholder = ⟨[], declared.notices ++ [.embed e]⟩ := by
  unfold embed
  simp only [asked, Noted.bind_eq]
  cases embedded : r.embedFrom placeholder directive
      (r.options.vars.substitute directive.sourcePath).value with
  | ok container =>
      rcases r.exists_codeContainer_of_embedFrom embedded with ⟨language, markup, rfl⟩
      exact Or.inl ⟨language, markup, rfl, congrArg (Noted.mk _) (List.append_nil _)⟩
  | error e => exact Or.inr ⟨e, rfl, rfl⟩

/-- What becomes of a block of code: it makes way for a container, or stays with a notice that says
why. -/
theorem highlightBlock_cases (block : Element) :
    let language := Text.trim ((block.attr? languageAttr).getD "")
    let code :=
      prepareCode (r.removesIndent (flagEnabled block preserveIndentAttr)) block.codeSource
    (∃ markup, r.highlighting.highlightBlock code language = .ok markup ∧
      r.highlightBlock block = ⟨[(codeContainer block language markup).toNode], []⟩) ∨
    ∃ e, r.highlighting.highlightBlock code language = .error e ∧
      r.highlightBlock block = ⟨[block.toNode], [.highlight language e]⟩ := by
  intro language code
  unfold highlightBlock
  dsimp only
  split
  · next markup highlighted => exact Or.inl ⟨markup, highlighted, rfl⟩
  · next e failed => exact Or.inr ⟨e, failed, rfl⟩

/-- What stands in the place of a placeholder: itself or a container. -/
theorem mem_value_embed {placeholder : Element} {m : Node}
    (member : m ∈ (r.embed placeholder).value) :
    m = placeholder.toNode ∨
      ∃ language markup, m = (codeContainer placeholder language markup).toNode := by
  cases asked : EmbedDirective.ofElement? placeholder with
  | none =>
      rw [embed, asked] at member
      exact Or.inl (List.mem_singleton.mp member)
  | some directive =>
      rcases r.embed_cases asked with ⟨language, markup, -, put⟩ | ⟨e, -, dropped⟩
      · rw [put] at member
        exact Or.inr ⟨language, markup, List.mem_singleton.mp member⟩
      · rw [dropped] at member
        cases member

/-- What stands in the place of a block of code: itself or a container. -/
theorem mem_value_highlightBlock {block : Element} {m : Node}
    (member : m ∈ (r.highlightBlock block).value) :
    m = block.toNode ∨ ∃ language markup, m = (codeContainer block language markup).toNode := by
  rcases r.highlightBlock_cases block with ⟨markup, -, put⟩ | ⟨e, -, kept⟩
  · rw [put] at member
    exact Or.inr ⟨_, markup, List.mem_singleton.mp member⟩
  · rw [kept] at member
    exact Or.inl (List.mem_singleton.mp member)

/-! ## The page before its anchors -/

/-- A page after the hooks, before its anchors are assigned. -/
def unanchored (d : Document) : Noted Document := do
  let d ← r.substituteImages d
  let d ← r.resolveEmbeds d.publishLinks.addPermalinks
  r.highlightCode d

/-- A page after the hooks, before its placeholders are replaced. -/
def beforeEmbeds (d : Document) : Document :=
  (r.substituteImages d).value.publishLinks.addPermalinks

theorem beforeEmbeds_eq (d : Document) :
    r.beforeEmbeds d =
      { d with
        children := Node.addPermalinksIn none (Node.publishLinksIn
          (Node.substituteIn (r.replacesImage d) (r.imageNodes d) d.children)) } := by
  rw [beforeEmbeds, value_substituteImages]
  rfl

theorem value_unanchored (d : Document) :
    (r.unanchored d).value =
      { d with
        children :=
          Node.substituteIn isNamedCode (fun e => (r.highlightBlock e).value)
            (Node.substituteIn isPlaceholder (fun e => (r.embed e).value)
              (r.beforeEmbeds d).children) } := by
  rw [unanchored, Noted.value_bind, Noted.value_bind, highlightCode, resolveEmbeds,
    Document.value_replace, Document.value_replace, ← beforeEmbeds, beforeEmbeds_eq]

theorem value_runPasses (d : Document) :
    (r.runPasses d).value = (r.unanchored d).value.assignAnchors := rfl

theorem notices_runPasses (d : Document) :
    (r.runPasses d).notices = (r.unanchored d).notices := by
  simp only [runPasses, unanchored, Noted.notices_bind, Noted.notices_pure, List.append_nil]

theorem transform_of_no_hooks (plain : r.hooks = []) (d : Document) :
    r.transform d = some (r.runPasses d) := by
  rw [transform, runHooks, plain]
  rfl

/-- A renderer that has no hooks, replaces no images and finds no sources. -/
def bare : Renderer where
  highlighting := .plain
  loader := fun _ declared => .error (.notAFile declared)

end Renderer

end Folio
