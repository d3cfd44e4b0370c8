import Folio.Proofs.Page.Pass

namespace Folio

open Markup

/-!
# Sources that cannot be embedded

A placeholder whose source cannot be embedded is dropped.  Here it is shown that a page is then the
same as if the placeholder had never been written: the removal of the failing placeholders commutes
with every pass before embedding, since those passes look at images, links and headings only, and
embedding would have removed them too.  All later passes then start from the same tree.

Every dropped placeholder is reported once, with the reason.  A placeholder inside an image goes
unreported if the image is replaced, which it is with all that it holds.
-/

namespace Renderer

variable (r : Renderer)

/-- Why the source of a placeholder cannot be embedded, if it cannot. -/
def embedError? (e : Element) : Option EmbedError :=
  (EmbedDirective.ofElement? e).bind fun directive =>
    match r.embedFrom e directive (r.options.vars.substitute directive.sourcePath).value with
    | .ok _ => none
    | .error error => some error

/-- Whether an element is a placeholder whose source cannot be embedded. -/
def failsToEmbed (e : Element) : Bool := isPlaceholder e && (r.embedError? e).isSome

/-- A page without the placeholders that fail, those inside code blocks apart. -/
def withoutFailedEmbeds (d : Document) : Document :=
  { d with children := Node.substituteIn r.failsToEmbed (fun _ => []) d.children }

theorem failsToEmbed_codeOnly (e : Element) (fails : r.failsToEmbed e = true) : e.isCodeBlock :=
  isCodeBlock_of_isPlaceholder e (Bool.and_eq_true_iff.mp fails).1

theorem failsToEmbed_ignoresChildren : Element.IgnoresChildren r.failsToEmbed :=
  fun _ _ _ _ => rfl

/-- Nothing stands in the place of a failing placeholder. -/
theorem value_embed_of_failsToEmbed {e : Element} (fails : r.failsToEmbed e = true) :
    (r.embed e).value = [] := by
  rcases Option.isSome_iff_exists.mp (Bool.and_eq_true_iff.mp fails).2 with ⟨error, reason⟩
  rcases Option.bind_eq_some_iff.mp reason with ⟨directive, asked, failed⟩
  rcases r.embed_cases asked with ⟨language, markup, embedded, -⟩ | ⟨error', -, dropped⟩
  · rw [embedded] at failed
    cases failed
  · rw [dropped]

end Renderer

namespace Markup.Node

variable {q : Element → Bool}

mutual

theorem substitute_publishLinks (codeOnly : ∀ e, q e = true → e.isCodeBlock)
    (ignores : Element.IgnoresChildren q) : ∀ n : Node,
    n.publishLinks.substitute q (fun _ => []) = publishLinksIn (n.substitute q fun _ => [])
  | .element tag attrs children => by
      rw [publishLinks]
      by_cases code : tag = "pre"
      · subst code
        have same : publishAttrs "pre" attrs = attrs := rfl
        rw [same]
        by_cases passes : q ⟨"pre", attrs, children⟩ = true
        · rw [substitute_of_passes passes,
            substitute_of_passes (ignores "pre" attrs children _ ▸ passes)]
          rfl
        · rw [substitute_of_code passes rfl,
            substitute_of_code (ignores "pre" attrs children _ ▸ passes) rfl]
          rfl
      · rw [substitute_of_proper (not_passes_of_proper codeOnly code _ _) code,
          substitute_of_proper (not_passes_of_proper codeOnly code _ _) code,
          substituteIn_publishLinksIn codeOnly ignores children]
        rfl
  | .text _ => rfl
  | .comment _ => rfl
  | .raw _ => rfl

/-- Code blocks can be removed before links are published or after. -/
theorem substituteIn_publishLinksIn (codeOnly : ∀ e, q e = true → e.isCodeBlock)
    (ignores : Element.IgnoresChildren q) : ∀ nodes : List Node,
    substituteIn q (fun _ => []) (publishLinksIn nodes) =
      publishLinksIn (substituteIn q (fun _ => []) nodes)
  | [] => rfl
  | n :: nodes => by
      rw [publishLinksIn, substituteIn, substituteIn, substitute_publishLinks codeOnly ignores n,
        substituteIn_publishLinksIn codeOnly ignores nodes, publishLinksIn_eq_map,
        publishLinksIn_eq_map, publishLinksIn_eq_map, List.map_append]

end

mutual

theorem substitute_addPermalinks (codeOnly : ∀ e, q e = true → e.isCodeBlock) :
    ∀ (n : Node) (sectionId : Option String),
    (n.addPermalinks sectionId).substitute q (fun _ => []) =
      addPermalinksIn sectionId (n.substitute q fun _ => [])
  | .element tag attrs children, sectionId => by
      rw [addPermalinks]
      by_cases code : tag = "pre"
      · subst code
        rw [if_pos rfl]
        by_cases passes : q ⟨"pre", attrs, children⟩ = true
        · rw [substitute_of_passes passes]
          rfl
        · rw [substitute_of_code passes rfl]
          rfl
      · have below :=
          substituteIn_addPermalinksIn codeOnly children (sectionId? ⟨tag, attrs, children⟩)
        have kept : substituteIn q (fun _ => []) (permalinksOf sectionId ⟨tag, attrs, children⟩) =
            permalinksOf sectionId ⟨tag, attrs, children⟩ := by
          rcases permalinksOf_cases sectionId ⟨tag, attrs, children⟩ with none | ⟨-, id, put⟩
          · rw [none]
            rfl
          · rw [put, substituteIn_singleton, substitute_permalink _ codeOnly]
        rw [if_neg code, substitute_of_proper (not_passes_of_proper codeOnly code _ _) code,
          substitute_of_proper (not_passes_of_proper codeOnly code _ _) code, substituteIn_append,
          kept, below, addPermalinksIn, addPermalinks, if_neg code]
        rfl
  | .text _, _ => rfl
  | .comment _, _ => rfl
  | .raw _, _ => rfl

/-- Code blocks can be removed before permalinks are written or after. -/
theorem substituteIn_addPermalinksIn (codeOnly : ∀ e, q e = true → e.isCodeBlock) :
    ∀ (nodes : List Node) (sectionId : Option String),
    substituteIn q (fun _ => []) (addPermalinksIn sectionId nodes) =
      addPermalinksIn sectionId (substituteIn q (fun _ => []) nodes)
  | [], _ => rfl
  | n :: nodes, sectionId => by
      rw [addPermalinksIn, substituteIn, substituteIn, substitute_addPermalinks codeOnly n,
        substituteIn_addPermalinksIn codeOnly nodes, addPermalinksIn_eq_map, addPermalinksIn_eq_map,
        addPermalinksIn_eq_map, List.map_append]

end

/-- It does not matter whether blocks are removed first that a replacement would remove. -/
theorem substituteIn_substituteIn {p : Element → Bool} {f : Element → List Node}
    (codeOnly : ∀ e, p e = true → e.isCodeBlock)
    (empty : ∀ e, q e = true → p e = true ∧ f e = []) (nodes : List Node) :
    substituteIn p f (substituteIn q (fun _ => []) nodes) = substituteIn p f nodes := by
  rw [substituteIn_substituteIn_of_code (fun e removed => codeOnly e (empty e removed).1) codeOnly]
  apply substituteIn_congr
  rintro e -
  cases removed : q e with
  | false => exact ⟨rfl, fun _ => rfl⟩
  | true =>
      rcases empty e removed with ⟨passes, nothing⟩
      exact ⟨passes.symm, fun _ => nothing.symm⟩

section Collection

variable {α : Type} {view : Element → List α}

mutual

theorem collect_publishLinks (codeOnly : ∀ e, e.isCodeBlock = false → view e = [])
    (ignores : Element.IgnoresChildren view) : ∀ n : Node,
    n.publishLinks.collect Element.isOutsideCode view = n.collect Element.isOutsideCode view
  | .element tag attrs children => by
      rw [publishLinks, collect, collect]
      by_cases code : tag = "pre"
      · subst code
        have same : publishAttrs "pre" attrs = attrs := rfl
        rw [same, ignores "pre" attrs _ children]
        rfl
      · have proper : ∀ attrs children, Element.isCodeBlock ⟨tag, attrs, children⟩ = false :=
          fun _ _ => beq_false_of_ne code
        rw [codeOnly _ (proper _ _), codeOnly _ (proper _ _),
          collectIn_publishLinksIn codeOnly ignores children]
        rfl
  | .text _ => rfl
  | .comment _ => rfl
  | .raw _ => rfl

/-- Publishing links changes nothing that is read off code blocks. -/
theorem collectIn_publishLinksIn (codeOnly : ∀ e, e.isCodeBlock = false → view e = [])
    (ignores : Element.IgnoresChildren view) : ∀ nodes : List Node,
    collectIn Element.isOutsideCode view (publishLinksIn nodes) =
      collectIn Element.isOutsideCode view nodes
  | [] => rfl
  | n :: nodes => by
      rw [publishLinksIn, collectIn, collectIn, collect_publishLinks codeOnly ignores n,
        collectIn_publishLinksIn codeOnly ignores nodes]

end

theorem collectIn_permalinksOf (codeOnly : ∀ e, e.isCodeBlock = false → view e = [])
    (sectionId : Option String) (e : Element) :
    collectIn Element.isOutsideCode view (permalinksOf sectionId e) = [] := by
  rcases permalinksOf_cases sectionId e with none | ⟨-, id, put⟩
  · rw [none]
    rfl
  · rw [put, collectIn_singleton]
    change view (permalink id) ++ [] = []
    rw [codeOnly (permalink id) rfl]
    rfl

mutual

theorem collect_addPermalinks (codeOnly : ∀ e, e.isCodeBlock = false → view e = []) :
    ∀ (n : Node) (sectionId : Option String),
      (n.addPermalinks sectionId).collect Element.isOutsideCode view =
        n.collect Element.isOutsideCode view
  | .element tag attrs children, sectionId => by
      rw [addPermalinks]
      by_cases code : tag = "pre"
      · rw [if_pos code]
      · have proper : ∀ children, Element.isCodeBlock ⟨tag, attrs, children⟩ = false :=
          fun _ => beq_false_of_ne code
        rw [if_neg code, collect, collect, collectIn_append, collectIn_permalinksOf codeOnly,
          collectIn_addPermalinksIn codeOnly children, codeOnly _ (proper _),
          codeOnly _ (proper _)]
        rfl
  | .text _, _ => rfl
  | .comment _, _ => rfl
  | .raw _, _ => rfl

/-- Writing permalinks changes nothing that is read off code blocks. -/
theorem collectIn_addPermalinksIn (codeOnly : ∀ e, e.isCodeBlock = false → view e = []) :
    ∀ (nodes : List Node) (sectionId : Option String),
      collectIn Element.isOutsideCode view (addPermalinksIn sectionId nodes) =
        collectIn Element.isOutsideCode view nodes
  | [], _ => rfl
  | n :: nodes, sectionId => by
      rw [addPermalinksIn, collectIn, collectIn, collect_addPermalinks codeOnly n,
        collectIn_addPermalinksIn codeOnly nodes]

end

end Collection

end Markup.Node

/-- Why a placeholder was dropped, if a notice reports that. -/
def Notice.embedError? : Notice → Option EmbedError
  | .embed e => some e
  | _ => none

namespace Renderer

variable (r : Renderer)

theorem embedErrors_substitute (vars : Variables) (text : String) :
    (vars.substitute text).notices.filterMap Notice.embedError? = [] := by
  simp [Variables.substitute, List.filterMap_map, Function.comp_def, Notice.embedError?]

/-- A placeholder is reported as dropped if and only if it fails. -/
theorem embedErrors_embed (e : Element) :
    (r.embed e).notices.filterMap Notice.embedError? = (r.embedError? e).toList := by
  cases asked : EmbedDirective.ofElement? e with
  | none =>
      rw [embed, embedError?, asked]
      rfl
  | some directive =>
      rcases r.embed_cases asked with ⟨language, markup, embedded, put⟩ | ⟨error, failed, dropped⟩
      · rw [put, embedErrors_substitute, embedError?, asked, Option.bind_some, embedded]
        rfl
      · rw [dropped, List.filterMap_append, embedErrors_substitute, embedError?, asked,
          Option.bind_some, failed]
        rfl

/-! ## The page without failing placeholders -/

theorem filterMap_images {α : Type} (d : Document) (view : Element → Option α) :
    d.images.filterMap view = Node.collectIn Element.isOutsideCode
      (fun e => if isImage e then (view e).toList else []) d.children := by
  rw [Document.images, List.filterMap_filterMap]
  exact d.filterMap_at?_pathsFrom _ isImage view

theorem isImage_of_not_proper {e : Element} (code : e.isCodeBlock) : isImage e = false := by
  have isPre : e.tag = "pre" := beq_iff_eq.mp code
  rw [isImage, isPre]
  rfl

/-- Images keep their addresses, since a placeholder is no image. -/
theorem imageSources_withoutFailedEmbeds (d : Document) (files : Dict String) :
    (r.withoutFailedEmbeds d).imageSources files = d.imageSources files := by
  have same : (fun e => if r.failsToEmbed e then []
      else if isImage e then (e.attr? "src").toList else []) =
      fun e => if isImage e then (e.attr? "src").toList else [] := by
    funext e
    split
    · next fails => rw [isImage_of_not_proper (r.failsToEmbed_codeOnly e fails)]; rfl
    · rfl
  rw [Document.imageSources, Document.imageSources, filterMap_images, filterMap_images,
    withoutFailedEmbeds, Node.collectIn_remove r.failsToEmbed_codeOnly (fun _ _ _ _ => rfl), same]

theorem fluidImages_withoutFailedEmbeds (d : Document) :
    r.fluidImages (r.withoutFailedEmbeds d) = r.fluidImages d := by
  unfold fluidImages
  split
  · rfl
  · rw [imageSources_withoutFailedEmbeds]

/-- Image substitution and the removal of failing placeholders do not get in each other's way. -/
theorem independent_images (d : Document) :
    Node.Independent (r.replacesImage d) (r.imageNodes d) r.failsToEmbed (fun _ => []) where
  firstTest := fun _ _ _ _ => rfl
  firstNodes := fun _ _ _ _ => rfl
  secondTest := r.failsToEmbed_ignoresChildren
  secondNodes := fun _ _ _ _ => rfl
  disjoint := by
    intro e replaced fails
    have noImage := isImage_of_not_proper (r.failsToEmbed_codeOnly e fails)
    rw [replacesImage, noImage] at replaced
    cases replaced
  firstFree := by
    intro e _
    rw [imageNodes]
    cases ImageSource.find? (r.fluidImages d) e with
    | none => rfl
    | some image => rfl
  secondFree := fun _ _ => rfl

/-- The passes before embedding neither see failing placeholders nor change them. -/
theorem beforeEmbeds_withoutFailedEmbeds (d : Document) :
    r.beforeEmbeds (r.withoutFailedEmbeds d) = r.withoutFailedEmbeds (r.beforeEmbeds d) := by
  have sameTest : r.replacesImage (r.withoutFailedEmbeds d) = r.replacesImage d := by
    unfold replacesImage
    rw [fluidImages_withoutFailedEmbeds]
  have sameNodes : r.imageNodes (r.withoutFailedEmbeds d) = r.imageNodes d := by
    unfold imageNodes
    rw [fluidImages_withoutFailedEmbeds]
  rw [beforeEmbeds_eq, beforeEmbeds_eq, sameTest, sameNodes, withoutFailedEmbeds,
    withoutFailedEmbeds, ← Node.substituteIn_comm (r.independent_images d),
    ← Node.substituteIn_publishLinksIn r.failsToEmbed_codeOnly r.failsToEmbed_ignoresChildren,
    ← Node.substituteIn_addPermalinksIn r.failsToEmbed_codeOnly]

/-- Embedding removes the failing placeholders itself. -/
theorem value_unanchored_withoutFailedEmbeds (d : Document) :
    (r.unanchored (r.withoutFailedEmbeds d)).value = (r.unanchored d).value := by
  rw [value_unanchored, value_unanchored, beforeEmbeds_withoutFailedEmbeds]
  have same := Node.substituteIn_substituteIn (q := r.failsToEmbed)
    (f := fun e => (r.embed e).value) isCodeBlock_of_isPlaceholder
    (fun e fails => ⟨(Bool.and_eq_true_iff.mp fails).1, r.value_embed_of_failsToEmbed fails⟩)
    (r.beforeEmbeds d).children
  rw [← same]
  rfl

/-! ## What is reported -/

theorem embedErrors_substituteImages (d : Document) :
    (r.substituteImages d).notices.filterMap Notice.embedError? = [] := by
  unfold substituteImages
  cases r.images with
  | none => rfl
  | some source => simp [List.filterMap_map, Function.comp_def, Notice.embedError?]

theorem embedErrors_highlightBlock (block : Element) :
    (r.highlightBlock block).notices.filterMap Notice.embedError? = [] := by
  rcases r.highlightBlock_cases block with ⟨markup, -, put⟩ | ⟨e, -, kept⟩
  · rw [put]
    rfl
  · rw [kept]
    rfl

theorem embedErrors_highlightCode (d : Document) :
    (r.highlightCode d).notices.filterMap Notice.embedError? = [] := by
  have silent : (fun e => (if isNamedCode e then (r.highlightBlock e).notices else []).filterMap
      Notice.embedError?) = fun _ => [] := by
    funext e
    split
    · exact r.embedErrors_highlightBlock e
    · rfl
  rw [highlightCode, Document.notices_replace _ _ isCodeBlock_of_isNamedCode,
    Node.filterMap_collectIn, silent, Node.collectIn_nothing]

/-- What a walk reads off a placeholder that fails. -/
def failure (e : Element) : List EmbedError :=
  if r.failsToEmbed e then (r.embedError? e).toList else []

theorem failure_ignoresChildren : Element.IgnoresChildren r.failure := fun _ _ _ _ => rfl

theorem failure_of_proper (e : Element) (proper : e.isCodeBlock = false) : r.failure e = [] := by
  unfold failure
  split
  · next fails => rw [r.failsToEmbed_codeOnly e fails] at proper; cases proper
  · rfl

/-- Only embedding reports placeholders as dropped: those that fail in the page that it gets. -/
theorem embedErrors_unanchored (d : Document) :
    (r.unanchored d).notices.filterMap Notice.embedError? =
      Node.collectIn Element.isOutsideCode r.failure (r.beforeEmbeds d).children := by
  have perPlaceholder : (fun e => (if isPlaceholder e then (r.embed e).notices else []).filterMap
      Notice.embedError?) = r.failure := by
    funext e
    unfold failure failsToEmbed
    cases placeholder : isPlaceholder e with
    | false => rfl
    | true =>
        rw [if_pos rfl, embedErrors_embed, Bool.true_and]
        cases r.embedError? e <;> rfl
  rw [unanchored, Noted.notices_bind, Noted.notices_bind, List.filterMap_append,
    List.filterMap_append, embedErrors_substituteImages, embedErrors_highlightCode,
    List.append_nil, List.nil_append, resolveEmbeds,
    Document.notices_replace _ _ isCodeBlock_of_isPlaceholder, Node.filterMap_collectIn,
    perPlaceholder, beforeEmbeds]

/-- Where the reported placeholders stand: outside code and outside images that are replaced. -/
def reportedPaths (d : Document) : List TreePath :=
  (d.pathsOutsideCode r.failsToEmbed).filter fun path =>
    !(d.ancestors path).any (r.replacesImage d)

theorem embedErrors_eq_filterMap_reportedPaths (d : Document) :
    (r.unanchored d).notices.filterMap Notice.embedError? =
      (r.reportedPaths d).filterMap fun path => (d.at? path).bind r.embedError? := by
  have atRoot : r.replacesImage d d.root = false := rfl
  have noImage : (fun e => if r.replacesImage d e then [] else r.failure e) = r.failure := by
    funext e
    split
    · next replaced =>
        have proper : e.isCodeBlock = false := by
          rcases Bool.eq_false_or_eq_true e.isCodeBlock with code | proper
          · rw [replacesImage, isImage_of_not_proper code] at replaced
            cases replaced
          · exact proper
        exact (r.failure_of_proper e proper).symm
    · rfl
  have nothing : ∀ e, r.replacesImage d e = true →
      Node.collectIn Element.isOutsideCode r.failure (r.imageNodes d e) = [] := by
    intro e _
    rw [imageNodes]
    cases ImageSource.find? (r.fluidImages d) e with
    | none => rfl
    | some image => rfl
  rw [embedErrors_unanchored, beforeEmbeds_eq,
    Node.collectIn_addPermalinksIn r.failure_of_proper,
    Node.collectIn_publishLinksIn r.failure_of_proper r.failure_ignoresChildren,
    Node.collectIn_substituteIn r.failure_ignoresChildren nothing, noImage,
    reportedPaths, d.filter_ancestors_pathsOutsideCode _ _ atRoot,
    Document.filterMap_at?_pathsFrom]
  rfl

/-- Without the failing placeholders there is nothing to report. -/
theorem embedErrors_unanchored_withoutFailedEmbeds (d : Document) :
    (r.unanchored (r.withoutFailedEmbeds d)).notices.filterMap Notice.embedError? = [] := by
  have silent : (fun e => if r.failsToEmbed e then [] else r.failure e) = fun _ => [] := by
    funext e
    unfold failure
    split
    · rfl
    · rfl
  rw [embedErrors_unanchored, beforeEmbeds_withoutFailedEmbeds, withoutFailedEmbeds,
    Node.collectIn_remove r.failsToEmbed_codeOnly r.failure_ignoresChildren, silent,
    Node.collectIn_nothing]

/-- At every reported path stands a placeholder with a reason to be dropped. -/
theorem isSome_embedError?_of_mem_reportedPaths {d : Document} {path : TreePath}
    (reported : path ∈ r.reportedPaths d) : ((d.at? path).bind r.embedError?).isSome := by
  have listed := (List.mem_filter.mp reported).1
  rcases Document.mem_pathsOutsideCode_iff.mp listed with ⟨-, ⟨e, atPath, fails⟩, -⟩
  rw [atPath]
  exact (Bool.and_eq_true_iff.mp fails).2

theorem map_some_filterMap {α β : Type} {f : α → Option β} {l : List α}
    (filled : ∀ a ∈ l, (f a).isSome) : (l.filterMap f).map some = l.map f := by
  induction l with
  | nil => rfl
  | cons a l inductionHypothesis =>
      rcases Option.isSome_iff_exists.mp (filled a List.mem_cons_self) with ⟨b, found⟩
      rw [List.filterMap_cons_some found, List.map_cons, List.map_cons, found,
        inductionHypothesis fun a' member => filled a' (List.mem_cons_of_mem a member)]

/-- A page is the same without its failing placeholders: in the tree, and in all that is rendered of
it.  With them, there is one report for each that does not stand inside a replaced image, in
document order and with its reason; without them there is none. -/
theorem transform_withoutFailedEmbeds (plain : r.hooks = []) (d : Document) :
    (r.renderDocument (r.withoutFailedEmbeds d)).map Noted.value =
        (r.renderDocument d).map Noted.value ∧
      ∃ page page', r.transform d = some page ∧
        r.transform (r.withoutFailedEmbeds d) = some page' ∧ page'.value = page.value ∧
        (page.notices.filterMap Notice.embedError?).map some =
          (r.reportedPaths d).map (fun path => (d.at? path).bind r.embedError?) ∧
        page'.notices.filterMap Notice.embedError? = [] := by
  have sameValue : (r.runPasses (r.withoutFailedEmbeds d)).value = (r.runPasses d).value := by
    rw [value_runPasses, value_runPasses, value_unanchored_withoutFailedEmbeds]
  refine ⟨?_, _, _, r.transform_of_no_hooks plain d, r.transform_of_no_hooks plain _, sameValue,
    ?_, ?_⟩
  · rw [renderDocument, renderDocument, r.transform_of_no_hooks plain,
      r.transform_of_no_hooks plain, Option.map_some, Option.map_some, Option.map_some,
      Option.map_some, Noted.value_bind, Noted.value_bind, sameValue]
  · rw [notices_runPasses, embedErrors_eq_filterMap_reportedPaths]
    exact map_some_filterMap fun path reported => r.isSome_embedError?_of_mem_reportedPaths reported
  · rw [notices_runPasses, embedErrors_unanchored_withoutFailedEmbeds]

/-- A page with one placeholder, which no source is found for. -/
def gonePage : Document where
  children := [.element "pre" (Dict.ofList [(embedAttr, "gone.js")]) []]

/-- The placeholder of that page is dropped, and reported once. -/
theorem transform_gonePage :
    ∃ page page', bare.transform gonePage = some page ∧
      bare.transform (bare.withoutFailedEmbeds gonePage) = some page' ∧
      page'.value = page.value ∧
      page.notices.filterMap Notice.embedError? = [.load (.notAFile "gone.js")] := by
  rcases (bare.transform_withoutFailedEmbeds rfl gonePage).2 with
    ⟨page, page', transformed, transformed', same, reported, -⟩
  have expected : (bare.reportedPaths gonePage).map
      (fun path => (gonePage.at? path).bind bare.embedError?) =
        [some (.load (.notAFile "gone.js"))] := by
    decide +kernel
  rw [expected] at reported
  exact ⟨page, page', transformed, transformed', same, List.map_injective_iff.mpr
    (Option.some_injective _) reported⟩

/-- A page with a placeholder inside an image, which loses both when the image is replaced. -/
def hiddenPage : Document where
  children :=
    [.element "img" (Dict.ofList [("src", "a.png")])
      [.element "pre" (Dict.ofList [(embedAttr, "gone.js")]) []]]

/-- The bare renderer with variants for one image. -/
def withImage : Renderer :=
  { bare with
    images := some
      { files := Dict.ofList [("a.png", "a.png")]
        fluid := fun _ _ => .ok ⟨"a", "a", "a", 2, ""⟩ } }

/-- Not every dropped placeholder is reported. -/
theorem not_forall_embedErrors_length :
    ¬ ∀ (r : Renderer) (d : Document) (page : Noted Document), r.hooks = [] →
      r.transform d = some page → (page.notices.filterMap Notice.embedError?).length =
        (d.pathsOutsideCode r.failsToEmbed).length := by
  intro claimed
  have lengths := claimed withImage hiddenPage _ rfl (withImage.transform_of_no_hooks rfl _)
  revert lengths
  decide +kernel

end Renderer

end Folio
