import Folio.Proofs.Page.ExampleCode

namespace Folio

open Markup

/-!
# What becomes of the blocks that ask for code

A block asks for code if it names a source to embed or the language of what it holds.  Two passes
deal with such blocks, and the second starts from what the first has left.  Here they are shown to
be one replacement: what embedding puts in asks for nothing, so highlighting leaves it alone, and
the blocks that highlighting replaces are those of the page.  A placeholder makes way for one container
or for nothing, a block with a language makes way for one container or stays, and in a container
the block keeps its identifier.
-/

/-- Whether an element asks for code, by a source or by a language. -/
def isCodeDirective (e : Element) : Bool :=
  e.isCodeBlock && (e.hasAttr embedAttr || e.hasAttr languageAttr)

theorem isCodeDirective_eq (e : Element) :
    isCodeDirective e = (isPlaceholder e || isNamedCode e) := by
  rw [isCodeDirective, isPlaceholder, isNamedCode, Element.isCodeBlock]
  cases e.tag == "pre" <;> cases e.hasAttr embedAttr <;> cases e.hasAttr languageAttr <;> rfl

/-- A replacement of code blocks that finds none leaves everything as it is. -/
theorem Markup.Node.substituteIn_of_codeBlocksIn {p : Element → Bool} (f : Element → List Node)
    (codeOnly : ∀ e, p e = true → e.isCodeBlock) {nodes : List Node}
    (none : ∀ b ∈ codeBlocksIn nodes, p b = false) : substituteIn p f nodes = nodes := by
  refine (substituteIn_congr nodes ?_).trans (substituteIn_of_no_passes f (fun _ => rfl) nodes)
  intro e met
  refine ⟨?_, fun impossible => absurd impossible Bool.false_ne_true⟩
  rw [← Bool.not_eq_true]
  intro passes
  have listed : e ∈ codeBlocksIn nodes := by
    rw [codeBlocksIn, ← filter_collectIn]
    exact List.mem_filter.mpr ⟨met, codeOnly e passes⟩
  rw [none e listed] at passes
  cases passes

namespace Renderer

variable (r : Renderer)

/-- Why the code of a block cannot be highlighted, if it cannot. -/
def highlightError? (block : Element) : Option HighlightError :=
  match r.highlighting.highlightBlock
      (prepareCode (r.removesIndent (flagEnabled block preserveIndentAttr)) block.codeSource)
      (Text.trim ((block.attr? languageAttr).getD "")) with
  | .ok _ => none
  | .error e => some e

/-- Whether a block that asks for code cannot be given any. -/
def failsToShow (block : Element) : Bool :=
  if isPlaceholder block then (r.embedError? block).isSome else (r.highlightError? block).isSome

/-- What the two passes put in the place of a block that asks for code. -/
def directiveNodes (block : Element) : List Node :=
  if isPlaceholder block then (r.embed block).value else (r.highlightBlock block).value

theorem value_highlightBlock_of_fails {block : Element}
    (fails : (r.highlightError? block).isSome = true) :
    (r.highlightBlock block).value = [block.toNode] := by
  rcases r.highlightBlock_cases block with ⟨markup, highlighted, -⟩ | ⟨e, -, kept⟩
  · rw [highlightError?, highlighted] at fails
    cases fails
  · rw [kept]

theorem exists_value_highlightBlock {block : Element}
    (succeeds : (r.highlightError? block).isSome = false) :
    ∃ language markup,
      (r.highlightBlock block).value = [(codeContainer block language markup).toNode] := by
  rcases r.highlightBlock_cases block with ⟨markup, -, put⟩ | ⟨e, failed, -⟩
  · exact ⟨_, markup, congrArg Noted.value put⟩
  · rw [highlightError?, failed] at succeeds
    cases succeeds

theorem exists_value_embed {placeholder : Element} (asks : isPlaceholder placeholder = true)
    (succeeds : (r.embedError? placeholder).isSome = false) :
    ∃ language markup,
      (r.embed placeholder).value = [(codeContainer placeholder language markup).toNode] := by
  rcases Option.isSome_iff_exists.mp (Bool.and_eq_true_iff.mp asks).2 with ⟨path, asked⟩
  have asked : ∃ directive, EmbedDirective.ofElement? placeholder = some directive := by
    rw [EmbedDirective.ofElement?, Element.attr?, asked]
    exact ⟨_, rfl⟩
  rcases asked with ⟨directive, asked⟩
  rcases r.embed_cases asked with ⟨language, markup, -, put⟩ | ⟨e, failed, -⟩
  · exact ⟨language, markup, congrArg Noted.value put⟩
  · rw [embedError?, asked, Option.bind_some, failed] at succeeds
    cases succeeds

/-- A block that cannot be given its code is dropped if its source is missing, and stays if its
language is. -/
theorem directiveNodes_of_failsToShow {block : Element} (fails : r.failsToShow block = true) :
    r.directiveNodes block = if isPlaceholder block then [] else [block.toNode] := by
  unfold failsToShow at fails
  unfold directiveNodes
  by_cases asks : isPlaceholder block = true
  · rw [if_pos asks] at fails ⊢
    rw [if_pos asks]
    exact r.value_embed_of_failsToEmbed (Bool.and_eq_true_iff.mpr ⟨asks, fails⟩)
  · rw [if_neg asks] at fails ⊢
    rw [if_neg asks]
    exact r.value_highlightBlock_of_fails fails

/-- Any other block makes way for one container. -/
theorem exists_directiveNodes {block : Element} (succeeds : r.failsToShow block = false) :
    ∃ language markup,
      r.directiveNodes block = [(codeContainer block language markup).toNode] := by
  unfold failsToShow at succeeds
  unfold directiveNodes
  by_cases asks : isPlaceholder block = true
  · rw [if_pos asks] at succeeds ⊢
    exact r.exists_value_embed asks succeeds
  · rw [if_neg asks] at succeeds ⊢
    exact r.exists_value_highlightBlock succeeds

/-! ## Both passes -/

/-- A page when its embedded sources and its code blocks have been dealt with. -/
def withCode (d : Document) : Document := (r.highlightCode (r.resolveEmbeds d).value).value

/-- What embedding puts in holds no block for highlighting. -/
theorem substituteIn_value_embed {placeholder : Element}
    (asks : isPlaceholder placeholder = true) (f : Element → List Node) :
    Node.substituteIn isNamedCode f (r.embed placeholder).value = (r.embed placeholder).value := by
  apply Node.substituteIn_of_codeBlocksIn f isCodeBlock_of_isNamedCode
  intro b listed
  rw [← Bool.not_eq_true]
  intro named
  have found : b ∈ (Node.codeBlocksIn (r.embed placeholder).value).filter isNamedCode :=
    List.mem_filter.mpr ⟨listed, named⟩
  rw [r.filter_codeBlocksIn_embed asks] at found
  cases found

/-- The two passes are one replacement. -/
theorem withCode_eq (d : Document) :
    r.withCode d =
      { d with children := Node.substituteIn isCodeDirective r.directiveNodes d.children } := by
  rw [withCode, highlightCode, resolveEmbeds, Document.value_replace, Document.value_replace,
    Node.substituteIn_substituteIn_of_code isCodeBlock_of_isPlaceholder isCodeBlock_of_isNamedCode]
  refine congrArg (fun children => { d with children }) (Node.substituteIn_congr _ ?_)
  rintro e -
  refine ⟨(isCodeDirective_eq e).symm, fun _ => ?_⟩
  rw [directiveNodes]
  split
  · next asks => exact r.substituteIn_value_embed asks _
  · rfl

/-- Of a block that asks for code, what still asks afterwards is the block itself, if its language
is missing. -/
theorem filter_codeBlocksIn_directiveNodes (block : Element) (asks : isCodeDirective block = true) :
    (Node.codeBlocksIn (r.directiveNodes block)).filter isCodeDirective =
      if isNamedCode block && r.failsToShow block then [block] else [] := by
  have isPre : block.tag = "pre" := beq_iff_eq.mp (Bool.and_eq_true_iff.mp asks).1
  cases fails : r.failsToShow block with
  | true =>
      rw [r.directiveNodes_of_failsToShow fails, Bool.and_true]
      rw [isCodeDirective_eq, Bool.or_eq_true] at asks
      by_cases embeds : isPlaceholder block = true
      · have unnamed : isNamedCode block = false := by
          rw [isNamedCode, (Bool.and_eq_true_iff.mp embeds).2]
          exact Bool.and_false _
        rw [if_pos embeds, unnamed]
        rfl
      · have named := asks.resolve_left embeds
        have itself : Node.codeBlocksIn [block.toNode] = [block] := by
          rw [Element.toNode, isPre, Node.codeBlocksIn_code, ← isPre]
        rw [if_neg embeds, named, itself, List.filter_singleton, isCodeDirective_eq, named,
          Bool.or_true]
        rfl
  | false =>
      rcases r.exists_directiveNodes fails with ⟨language, markup, put⟩
      rcases codeBlocksIn_codeContainer block language markup with
        ⟨shown, inContainer, -, noSource, noLanguage⟩
      rw [put, inContainer, Bool.and_false, List.filter_singleton, isCodeDirective, noSource,
        noLanguage, Bool.or_self, Bool.and_false]
      rfl

theorem filter_codeBlocks_withCode (d : Document) :
    (r.withCode d).codeBlocks.filter isCodeDirective =
      d.codeBlocks.filter fun block => isNamedCode block && r.failsToShow block := by
  have codeOnly : ∀ e, isCodeDirective e = true → e.isCodeBlock :=
    fun e asks => (Bool.and_eq_true_iff.mp asks).1
  rw [withCode_eq, Document.codeBlocks_eq, Node.codeBlocksIn_substituteIn_of_codeOnly codeOnly,
    List.filter_flatMap, ← Document.codeBlocks_eq]
  induction d.codeBlocks with
  | nil => rfl
  | cons block blocks inductionHypothesis =>
      rw [List.flatMap_cons, inductionHypothesis]
      by_cases asks : isCodeDirective block = true
      · rw [if_pos asks, r.filter_codeBlocksIn_directiveNodes block asks, List.filter_cons]
        split <;> rfl
      · have unnamed : isNamedCode block = false := by
          rw [isCodeDirective_eq, Bool.or_eq_true, not_or] at asks
          exact Bool.not_eq_true _ ▸ asks.2
        rw [if_neg asks, List.filter_singleton, Bool.eq_false_iff.mpr asks, List.filter_cons,
          unnamed]
        rfl

/-- Every block that asks for code is dealt with.  The two passes change nothing but the outermost
such blocks.  One that can be given its code makes way for one container, in which a block has its
identifier; of the others a placeholder makes way for nothing, and a block with a language stays.
Afterwards no placeholder is left outside code, and the blocks that still ask are those that had to
stay, each node of them as it was. -/
theorem withCode_consumes_directives (d : Document) :
    r.withCode d =
        { d with children := Node.substituteIn isCodeDirective r.directiveNodes d.children } ∧
      (∀ block, if r.failsToShow block then
          r.directiveNodes block = if isPlaceholder block then [] else [block.toNode]
        else ∃ language markup shown,
          r.directiveNodes block = [(codeContainer block language markup).toNode] ∧
            Node.codeBlocksIn [(codeContainer block language markup).toNode] = [shown] ∧
            shown.id? = block.id?) ∧
      (r.withCode d).pathsOutsideCode isPlaceholder = [] ∧
      (r.withCode d).codeBlocks.filter isCodeDirective =
        d.codeBlocks.filter fun block => isNamedCode block && r.failsToShow block := by
  have left := r.filter_codeBlocks_withCode d
  refine ⟨r.withCode_eq d, ?_, ?_, left⟩
  · intro block
    split
    · next fails => exact r.directiveNodes_of_failsToShow fails
    · next succeeds =>
        rcases r.exists_directiveNodes (Bool.eq_false_iff.mpr succeeds) with ⟨language, markup, put⟩
        rcases codeBlocksIn_codeContainer block language markup with ⟨shown, inContainer, sameId, -⟩
        exact ⟨language, markup, shown, put, inContainer, sameId⟩
  · rw [List.eq_nil_iff_forall_not_mem]
    intro path listed
    rcases Document.mem_pathsOutsideCode_iff.mp listed with ⟨below, ⟨e, atPath, asks⟩, outside⟩
    have isBlock : e ∈ (r.withCode d).codeBlocks := List.mem_filterMap.mpr ⟨path,
      Document.mem_pathsOutsideCode_iff.mpr
        ⟨below, ⟨e, atPath, isCodeBlock_of_isPlaceholder e asks⟩, outside⟩, atPath⟩
    have kept : e ∈ (r.withCode d).codeBlocks.filter isCodeDirective :=
      List.mem_filter.mpr ⟨isBlock, by rw [isCodeDirective_eq, asks, Bool.true_or]⟩
    rw [left] at kept
    have named := (Bool.and_eq_true_iff.mp (List.mem_filter.mp kept).2).1
    rw [isNamedCode, (Bool.and_eq_true_iff.mp asks).2] at named
    simp at named

end Renderer

end Folio
