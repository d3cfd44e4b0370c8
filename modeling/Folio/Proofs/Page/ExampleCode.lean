import Folio.Proofs.Page.AnchorAssignment
import Folio.Proofs.Page.FailedEmbed

namespace Folio

open Markup

/-!
# What the passes do to example code

What stands in a code block is code that a page shows, and looks like structure only.  The passes
are compared here by the list of the code blocks of a page.  Images, permalinks, anchors and
embedding leave the content of every block alone: they put in blocks of their own, drop those in an
image that is replaced, and give some an identifier.  Publishing links is the exception.  It walks
through code blocks as through everything else, so the content of a block is kept if and only if no
link to another page stands in it.  The code that is highlighted later is then the author's.
-/

namespace Markup.Node

/-- The code blocks among nodes and below them, in document order.  What stands in a code block is
code, and no block. -/
def codeBlocksIn (nodes : List Node) : List Element :=
  collectIn Element.isOutsideCode (fun e => if e.isCodeBlock then [e] else []) nodes

theorem codeBlocksIn_cons (n : Node) (nodes : List Node) :
    codeBlocksIn (n :: nodes) = codeBlocksIn [n] ++ codeBlocksIn nodes :=
  collectIn_append _ _ [n] nodes

theorem codeBlocksIn_eq_flatMap (nodes : List Node) :
    codeBlocksIn nodes = nodes.flatMap fun n => codeBlocksIn [n] := by
  induction nodes with
  | nil => rfl
  | cons n nodes inductionHypothesis =>
      rw [codeBlocksIn_cons, inductionHypothesis, List.flatMap_cons]

theorem codeBlocksIn_code (attrs : Dict String) (children : List Node) :
    codeBlocksIn [element "pre" attrs children] = [⟨"pre", attrs, children⟩] := rfl

theorem codeBlocksIn_proper {tag : String} (proper : tag ≠ "pre") (attrs : Dict String)
    (children : List Node) : codeBlocksIn [element tag attrs children] = codeBlocksIn children := by
  have noCode : Element.isCodeBlock ⟨tag, attrs, children⟩ = false := beq_false_of_ne proper
  rw [codeBlocksIn, collectIn_singleton, collect, Element.isOutsideCode, noCode]
  rfl

theorem flatMap_codeBlocksIn {α : Type} (g : Element → List α) (nodes : List Node) :
    (codeBlocksIn nodes).flatMap g =
      collectIn Element.isOutsideCode (fun e => if e.isCodeBlock then g e else []) nodes := by
  rw [codeBlocksIn, flatMap_collectIn]
  congr 1
  funext e
  split
  · exact List.flatMap_singleton ..
  · rfl

end Markup.Node

namespace Document

/-- The code blocks of a page, in document order. -/
def codeBlocks (d : Document) : List Element :=
  (d.pathsOutsideCode Element.isCodeBlock).filterMap d.at?

theorem codeBlocks_eq (d : Document) : d.codeBlocks = Node.codeBlocksIn d.children := by
  have read := d.filterMap_at?_pathsFrom Element.isOutsideCode Element.isCodeBlock some
  simp only [Option.bind_fun_some, Option.toList_some] at read
  exact read

end Document

/-- Whether an element is a link that publishing changes. -/
def isInternalLink (e : Element) : Bool :=
  e.tag == "a" && !e.hasAttr externalAttr && (e.attr? "href").any Url.isInternal

/-- A published address begins at the root of the site, and an internal one does not. -/
theorem Url.published_ne {url : String} (isInternal : Url.isInternal url = true) :
    Url.published url ≠ url := by
  intro same
  rcases Bool.and_eq_true_iff.mp isInternal with ⟨relative, isPage⟩
  rcases Option.isSome_iff_exists.mp isPage with ⟨⟨page, place⟩, split⟩
  have chars : url.toList = '/' :: (page ++ '/' :: place) := by
    have printed : Url.published url = String.ofList ('/' :: page ++ '/' :: place) := by
      rw [Url.published, split]
    rw [← same, printed, String.toList_ofList]
    rfl
  rw [Url.isRelative, chars] at relative
  cases relative

theorem exists_publishAttrs_eq_insert {tag : String} {attrs : Dict String} {children : List Node}
    (isLink : isInternalLink ⟨tag, attrs, children⟩ = true) :
    ∃ href, attrs.get? "href" = some href ∧ Url.isInternal href = true ∧
      publishAttrs tag attrs = attrs.insert "href" (Url.published href) := by
  simp only [isInternalLink, Element.hasAttr, Element.attr?, Bool.and_eq_true, beq_iff_eq,
    Bool.not_eq_true', Option.any_eq_true] at isLink
  rcases isLink with ⟨⟨isA, notExternal⟩, href, address, isInternal⟩
  refine ⟨href, address, isInternal, ?_⟩
  rw [publishAttrs, if_pos ⟨isA, by rw [notExternal]; rfl⟩, address]
  exact if_pos isInternal

theorem publishAttrs_of_isInternalLink {tag : String} {attrs : Dict String} {children : List Node}
    (isLink : isInternalLink ⟨tag, attrs, children⟩ = true) :
    publishAttrs tag attrs ≠ attrs := by
  rcases exists_publishAttrs_eq_insert isLink with ⟨href, address, isInternal, written⟩
  intro same
  have kept := congrArg (·.get? "href") (written.symm.trans same)
  simp only [Table.get?_insert_self, address] at kept
  exact Url.published_ne isInternal (Option.some.inj kept)

theorem publishAttrs_eq_self_iff (tag : String) (attrs : Dict String) (children : List Node) :
    publishAttrs tag attrs = attrs ↔ isInternalLink ⟨tag, attrs, children⟩ = false := by
  constructor
  · intro same
    rw [← Bool.not_eq_true]
    exact fun isLink => publishAttrs_of_isInternalLink isLink same
  · intro noLink
    rw [publishAttrs]
    split
    · next isLink =>
        split
        · next href address =>
            split
            · next isInternal =>
                simp_all [isInternalLink, Element.hasAttr, Element.attr?]
            · rfl
        · rfl
    · rfl

namespace Markup.Node

mutual

theorem publishLinks_eq_self_iff : ∀ n : Node,
    n.publishLinks = n ↔ n.find? isInternalLink = none
  | .element tag attrs children => by
      rw [publishLinks, Node.element.injEq, find?, publishAttrs_eq_self_iff tag attrs children,
        publishLinksIn_eq_self_iff children]
      cases isInternalLink ⟨tag, attrs, children⟩ with
      | true => simp
      | false => simp
  | .text _ => by simp [publishLinks, find?]
  | .comment _ => by simp [publishLinks, find?]
  | .raw _ => by simp [publishLinks, find?]

/-- Publishing links changes a tree if and only if it finds one. -/
theorem publishLinksIn_eq_self_iff : ∀ nodes : List Node,
    publishLinksIn nodes = nodes ↔ findIn? isInternalLink nodes = none
  | [] => by simp [publishLinksIn, findIn?]
  | n :: nodes => by
      rw [publishLinksIn, List.cons.injEq, findIn?, publishLinks_eq_self_iff n,
        publishLinksIn_eq_self_iff nodes, Option.or_eq_none_iff]

end

end Markup.Node

namespace Markup.Element

/-- Whether a link to another page stands in an element, at any depth. -/
def holdsInternalLink (e : Element) : Bool := (e.findBelow? isInternalLink).isSome

/-- An element with the links in it published, but not its own address. -/
def withPublishedContent (e : Element) : Element :=
  { e with children := Node.publishLinksIn e.children }

theorem withPublishedContent_eq_self_iff (e : Element) :
    e.withPublishedContent = e ↔ e.holdsInternalLink = false := by
  rw [holdsInternalLink, findBelow?, Option.isSome_eq_false_iff, Option.isNone_iff_eq_none,
    ← Node.publishLinksIn_eq_self_iff]
  constructor
  · exact congrArg Element.children
  · intro same
    rw [withPublishedContent, same]

end Markup.Element

/-! ## Code blocks after a pass -/

namespace Document

theorem codeBlocks_addPermalinks (d : Document) : d.addPermalinks.codeBlocks = d.codeBlocks := by
  rw [codeBlocks_eq, codeBlocks_eq]
  apply Node.collectIn_addPermalinksIn
  intro e proper
  rw [proper]
  rfl

end Document

namespace Markup.Node

theorem codeBlocksIn_substituteIn (p : Element → Bool) (f : Element → List Node)
    (nodes : List Node) :
    codeBlocksIn (substituteIn p f nodes) =
      collectIn (fun e => e.isOutsideCode && !p e)
        (fun e => if p e then codeBlocksIn (f e) else if e.isCodeBlock then [e] else []) nodes := by
  apply collectIn_substituteIn_of_code
  intro tag attrs first second proper
  have noCode : ∀ children, Element.isCodeBlock ⟨tag, attrs, children⟩ = false :=
    fun _ => beq_false_of_ne proper
  rw [noCode, noCode]
  rfl

/-- A replacement of code blocks puts other blocks in the place of those that it replaces. -/
theorem codeBlocksIn_substituteIn_of_codeOnly {p : Element → Bool}
    (codeOnly : ∀ e, p e = true → e.isCodeBlock) (f : Element → List Node) (nodes : List Node) :
    codeBlocksIn (substituteIn p f nodes) =
      (codeBlocksIn nodes).flatMap fun b => if p b then codeBlocksIn (f b) else [b] := by
  have views : (fun e => if p e then codeBlocksIn (f e) else if e.isCodeBlock then [e] else []) =
      fun e => if e.isCodeBlock then (if p e then codeBlocksIn (f e) else [e]) else [] := by
    funext e
    cases passes : p e with
    | false => simp
    | true => simp [codeOnly e passes]
  rw [codeBlocksIn_substituteIn, flatMap_codeBlocksIn, Element.isOutsideCode_and_not codeOnly,
    views]

mutual

theorem codeBlocksIn_publishLinks : ∀ n : Node,
    codeBlocksIn [n.publishLinks] = (codeBlocksIn [n]).map Element.withPublishedContent
  | .element tag attrs children => by
      rw [publishLinks]
      by_cases code : tag = "pre"
      · subst code
        rfl
      · rw [codeBlocksIn_proper code, codeBlocksIn_proper code,
          codeBlocksIn_publishLinksIn children]
  | .text _ => rfl
  | .comment _ => rfl
  | .raw _ => rfl

/-- Publishing links goes through code blocks too. -/
theorem codeBlocksIn_publishLinksIn : ∀ nodes : List Node,
    codeBlocksIn (publishLinksIn nodes) =
      (codeBlocksIn nodes).map Element.withPublishedContent
  | [] => rfl
  | n :: nodes => by
      rw [publishLinksIn, codeBlocksIn_cons, codeBlocksIn_cons n, codeBlocksIn_publishLinks n,
        codeBlocksIn_publishLinksIn nodes, List.map_append]

end

end Markup.Node

theorem Document.codeBlocks_publishLinks (d : Document) :
    d.publishLinks.codeBlocks = d.codeBlocks.map Element.withPublishedContent := by
  rw [codeBlocks_eq, codeBlocks_eq]
  exact Node.codeBlocksIn_publishLinksIn d.children

namespace Document

/-- No target stands in a code block, so a block keeps what it holds. -/
theorem children_assignAnchors_of_code {d : Document} {path : TreePath}
    (listed : path ∈ d.pathsOutsideCode Element.isCodeBlock) :
    (d.assignAnchors.at? path).map Element.children = (d.at? path).map Element.children := by
  rcases mem_pathsOutsideCode_iff.mp listed with ⟨below, ⟨e, atPath, code⟩, -⟩
  rcases exists_at?_assignAnchors atPath with ⟨e', atPath', -⟩
  have inCode : ∀ rest ≠ [], ¬ d.OutsideCode (path ++ rest) := by
    intro rest nonempty outside
    have entered := outside path e (List.prefix_append path rest) below (by simpa using nonempty)
      atPath
    simp [code] at entered
  have kept : ∀ rest ≠ [], e'.toNode.labelAt? rest = e.toNode.labelAt? rest := by
    intro rest nonempty
    rw [← labelAt?_append atPath', ← labelAt?_append atPath]
    apply labelAt?_assignAnchors_of_not_target
    rintro (⟨-, -, outside⟩ | fragment)
    · exact inCode rest nonempty outside
    · exact inCode rest nonempty (place_of_mem_fullTextPaths fragment).2.2
  rw [atPath, atPath', Option.map_some, Option.map_some,
    Element.children_eq_of_labelAt?_eq kept]

theorem map_children_codeBlocks_assignAnchors (d : Document) :
    d.assignAnchors.codeBlocks.map Element.children = d.codeBlocks.map Element.children := by
  have sameTest : ∀ e e' : Element, e'.tag = e.tag →
      (∀ name, name ≠ "id" → e'.attr? name = e.attr? name) → e'.isCodeBlock = e.isCodeBlock := by
    intro e e' sameTag _
    rw [Element.isCodeBlock, Element.isCodeBlock, sameTag]
  rw [codeBlocks, codeBlocks, d.pathsOutsideCode_assignAnchors sameTest, List.map_filterMap,
    List.map_filterMap]
  apply List.filterMap_congr
  intro path listed
  exact children_assignAnchors_of_code listed

end Document

/-! ## The way of a page to its highlighting -/

namespace Renderer

variable (r : Renderer)

/-- The code blocks of a page that do not stand in an image that is replaced. -/
def remainingCodeBlocks (d : Document) : List Element :=
  ((d.pathsOutsideCode Element.isCodeBlock).filter fun path =>
    !(d.ancestors path).any (r.replacesImage d)).filterMap d.at?

theorem codeBlocks_substituteImages (d : Document) :
    (r.substituteImages d).value.codeBlocks = r.remainingCodeBlocks d := by
  have views : (fun e => if r.replacesImage d e then Node.codeBlocksIn (r.imageNodes d e)
      else if e.isCodeBlock then [e] else []) = fun e => if e.isCodeBlock then [e] else [] := by
    funext e
    cases replaced : r.replacesImage d e with
    | false => rfl
    | true =>
        have isImg : e.tag = "img" := beq_iff_eq.mp (Bool.and_eq_true_iff.mp replaced).1
        have noCode : e.isCodeBlock = false := by
          rw [Element.isCodeBlock, isImg]
          rfl
        rw [if_pos rfl, noCode, imageNodes]
        cases ImageSource.find? (r.fluidImages d) e with
        | none => rfl
        | some image => rfl
  have read := d.filterMap_at?_pathsFrom (fun e => e.isOutsideCode && !r.replacesImage d e)
    Element.isCodeBlock some
  simp only [Option.bind_fun_some, Option.toList_some] at read
  rw [value_substituteImages, Document.codeBlocks_eq, Node.codeBlocksIn_substituteIn, views,
    remainingCodeBlocks, d.filter_ancestors_pathsOutsideCode _ _ rfl, read]

theorem codeBlocks_resolveEmbeds (d : Document) :
    (r.resolveEmbeds d).value.codeBlocks = d.codeBlocks.flatMap fun b =>
      if isPlaceholder b then Node.codeBlocksIn (r.embed b).value else [b] := by
  rw [resolveEmbeds, Document.value_replace, Document.codeBlocks_eq, Document.codeBlocks_eq,
    Node.codeBlocksIn_substituteIn_of_codeOnly isCodeBlock_of_isPlaceholder]

/-- The block in a container has the identifier of the block that it stands for, and it asks for
nothing. -/
theorem codeBlocksIn_codeContainer (block : Element) (language markup : String) :
    ∃ shown : Element, Node.codeBlocksIn [(codeContainer block language markup).toNode] = [shown] ∧
      shown.id? = block.id? ∧ shown.hasAttr embedAttr = false ∧
      shown.hasAttr languageAttr = false := by
  refine ⟨_, rfl, ?_⟩
  cases hasId : block.id? with
  | none => exact ⟨rfl, rfl, rfl⟩
  | some id =>
      have nonempty := (Option.filter_eq_some_iff.mp hasId).2
      refine ⟨?_, rfl, rfl⟩
      change (some id).filter (fun id => !id.isEmpty) = some id
      rw [Option.filter_some, if_pos nonempty]

/-- Embedding puts in no block of code that names its language. -/
theorem filter_codeBlocksIn_embed {b : Element} (placeholder : isPlaceholder b = true) :
    (Node.codeBlocksIn (r.embed b).value).filter isNamedCode = [] := by
  rcases Bool.and_eq_true_iff.mp placeholder with ⟨isPre, asksSource⟩
  have unnamed : ∀ m ∈ (r.embed b).value, (Node.codeBlocksIn [m]).filter isNamedCode = [] := by
    intro m member
    rcases r.mem_value_embed member with rfl | ⟨language, markup, rfl⟩
    · have itself : Node.codeBlocksIn [b.toNode] = [b] := by
        rw [Element.toNode, beq_iff_eq.mp isPre, Node.codeBlocksIn_code, ← beq_iff_eq.mp isPre]
      simp [itself, isNamedCode, asksSource]
    · rcases codeBlocksIn_codeContainer b language markup with ⟨shown, block, -, -, noLanguage⟩
      simp [block, isNamedCode, noLanguage]
  rw [Node.codeBlocksIn_eq_flatMap, List.filter_flatMap, List.flatMap_eq_nil_iff]
  exact unnamed

/-- A page as it is when its code is highlighted. -/
def beforeHighlighting (d : Document) : Document := (r.resolveEmbeds (r.beforeEmbeds d)).value

/-- The code that a page is to show highlighted. -/
def highlightedCode (d : Document) : List String :=
  ((r.beforeHighlighting d).codeBlocks.filter isNamedCode).map Element.codeSource

theorem filter_codeBlocks_resolveEmbeds (d : Document) :
    (r.resolveEmbeds d).value.codeBlocks.filter isNamedCode = d.codeBlocks.filter isNamedCode := by
  have pieces : d.codeBlocks.filter isNamedCode =
      d.codeBlocks.flatMap fun b => [b].filter isNamedCode := by
    rw [← List.filter_flatMap, List.flatMap_singleton']
  rw [codeBlocks_resolveEmbeds, List.filter_flatMap, pieces]
  apply List.flatMap_congr
  rintro b -
  split
  · next placeholder =>
      have unnamed : isNamedCode b = false := by
        rw [isNamedCode, (Bool.and_eq_true_iff.mp placeholder).2]
        exact Bool.and_false _
      rw [r.filter_codeBlocksIn_embed placeholder, List.filter_singleton, unnamed]
      rfl
  · rfl

theorem filter_codeBlocks_beforeHighlighting (d : Document) :
    (r.beforeHighlighting d).codeBlocks.filter isNamedCode =
      ((r.remainingCodeBlocks d).filter isNamedCode).map Element.withPublishedContent := by
  rw [beforeHighlighting, filter_codeBlocks_resolveEmbeds, beforeEmbeds,
    Document.codeBlocks_addPermalinks, Document.codeBlocks_publishLinks,
    codeBlocks_substituteImages, List.filter_map]
  rfl

/-- What becomes of the code blocks of a page.  Images, permalinks, anchors and embedding leave what
a block holds alone, apart from the blocks in an image that is replaced and the placeholders that
are embedded.  Publishing links leaves it alone if and only if no link to another page stands in
it, and the code that is highlighted is that of the page as far as this is so. -/
theorem codeBlocks_passes (d : Document) :
    (r.substituteImages d).value.codeBlocks = r.remainingCodeBlocks d ∧
      d.addPermalinks.codeBlocks = d.codeBlocks ∧
      d.assignAnchors.codeBlocks.map Element.children = d.codeBlocks.map Element.children ∧
      (r.resolveEmbeds d).value.codeBlocks =
        (d.codeBlocks.flatMap fun b =>
          if isPlaceholder b then Node.codeBlocksIn (r.embed b).value else [b]) ∧
      d.publishLinks.codeBlocks = d.codeBlocks.map Element.withPublishedContent ∧
      (∀ b : Element, b.withPublishedContent = b ↔ b.holdsInternalLink = false) ∧
      r.highlightedCode d =
        ((r.remainingCodeBlocks d).filter isNamedCode).map
          fun b => b.withPublishedContent.codeSource := by
  refine ⟨r.codeBlocks_substituteImages d, d.codeBlocks_addPermalinks,
    d.map_children_codeBlocks_assignAnchors, r.codeBlocks_resolveEmbeds d,
    d.codeBlocks_publishLinks, Element.withPublishedContent_eq_self_iff, ?_⟩
  rw [highlightedCode, filter_codeBlocks_beforeHighlighting, List.map_map]
  rfl

end Renderer

/-- A page whose example code is a link. -/
def linkInCode : Document where
  children :=
    [.element "pre" (Dict.ofList [(languageAttr, "markup")])
      [.element "a" (Dict.ofList [("href", "page.html")]) [.text "x"]]]

/-- Publishing links changes the code of an example that holds a link to another page. -/
theorem not_forall_codeSource_publishLinks :
    ¬ ∀ d : Document,
      d.publishLinks.codeBlocks.map Element.codeSource = d.codeBlocks.map Element.codeSource := by
  intro kept
  have code := kept linkInCode
  revert code
  decide +kernel

end Folio
