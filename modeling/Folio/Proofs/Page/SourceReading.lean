import Folio.Proofs.Files.FileStore
import Folio.Proofs.Page.FailedEmbed

namespace Folio

open Markup

/-!
# What a page takes from files

A page looks at the files around it only to embed sources.  It asks for those that its placeholders
name, as they stand on the page before any pass, and what it takes from a file is the text; why a
file cannot be read makes no difference to the page, only to what is reported.  So a page is
rendered the same from two stores that agree on the texts of the sources that it names.
-/

theorem toOption_bind {ε α β : Type} (x : Except ε α) (f : α → Except ε β) :
    (x >>= f).toOption = x.toOption.bind fun a => (f a).toOption := by
  cases x <;> rfl

theorem toOption_mapError {ε ε' α : Type} (x : Except ε α) (f : ε → ε') :
    (x.mapError f).toOption = x.toOption := by
  cases x <;> rfl

/-- A source is loaded exactly if its text can be read. -/
theorem FileStore.toOption_loadSource (fs : FileStore) (directory declared : String) :
    (fs.loadSource directory declared).toOption =
      (fs.readText (PathName.join directory declared)).toOption.map
        (LoadedSource.mk (PathName.join directory declared)) := by
  rw [loadSource]
  cases isRead : fs.readText (PathName.join directory declared) with
  | error e =>
      dsimp only
      split
      · rfl
      · split <;> rfl
  | ok content =>
      rcases readText_eq_ok_iff.mp isRead with ⟨loc, located, isText⟩
      have found : fs.lookup? (PathName.join directory declared) = some (.file (some content)) := by
        rw [lookup?, located]
        exact isText
      rw [pathExists, isFile, found]
      rfl

namespace Renderer

variable (r : Renderer)

/-- The source that a placeholder names. -/
def wantedSource (e : Element) : List String :=
  if isPlaceholder e then
    ((EmbedDirective.ofElement? e).map fun directive =>
      PathName.join r.directory (r.options.vars.substitute directive.sourcePath).value).toList
  else []

theorem wantedSource_of_proper (e : Element) (proper : e.isCodeBlock = false) :
    r.wantedSource e = [] := by
  rw [wantedSource]
  split
  · next placeholder =>
      rw [isCodeBlock_of_isPlaceholder e placeholder] at proper
      cases proper
  · rfl

theorem wantedSources_eq_collectIn (d : Document) :
    r.wantedSources d = Node.collectIn Element.isOutsideCode r.wantedSource d.children := by
  have read := d.filterMap_at?_pathsFrom Element.isOutsideCode isPlaceholder fun e =>
    (EmbedDirective.ofElement? e).map fun directive =>
      PathName.join r.directory (r.options.vars.substitute directive.sourcePath).value
  rw [wantedSources, List.filterMap_filterMap, List.map_filterMap]
  simp only [Option.map_bind]
  exact read

/-- No pass in front of embedding changes what the placeholders name. -/
theorem collectIn_wantedSource_beforeEmbeds (noImages : r.images = none) (d : Document) :
    Node.collectIn Element.isOutsideCode r.wantedSource (r.beforeEmbeds d).children =
      r.wantedSources d := by
  have untouched : (r.substituteImages d).value = d := by
    rw [substituteImages, noImages]
    rfl
  rw [beforeEmbeds, untouched, wantedSources_eq_collectIn]
  exact (Node.collectIn_addPermalinksIn r.wantedSource_of_proper _ none).trans
    (Node.collectIn_publishLinksIn r.wantedSource_of_proper (fun _ _ _ _ => rfl) d.children)

/-! ## Two renderers -/

/-- A renderer that reads its sources in another way. -/
def withLoader (loader : SourceLoader) : Renderer := { r with loader }

/-- Whether a way to read sources comes to the same as that of the renderer, but for the reasons why
it fails. -/
def LoadsAlike (loader : SourceLoader) (declared : String) : Prop :=
  (loader r.directory declared).toOption = (r.loader r.directory declared).toOption

variable {r} {loader : SourceLoader}

theorem toOption_embeddedCode {declared : String} (alike : r.LoadsAlike loader declared)
    (directive : EmbedDirective) :
    ((r.withLoader loader).embeddedCode directive declared).toOption =
      (r.embeddedCode directive declared).toOption := by
  rw [embeddedCode, embeddedCode, toOption_bind, toOption_bind, toOption_mapError,
    toOption_mapError]
  exact congrArg (Option.bind · _) alike

theorem toOption_embedFrom {declared : String} (alike : r.LoadsAlike loader declared)
    (placeholder : Element) (directive : EmbedDirective) :
    ((r.withLoader loader).embedFrom placeholder directive declared).toOption =
      (r.embedFrom placeholder directive declared).toOption := by
  rw [embedFrom, embedFrom, toOption_bind, toOption_bind, toOption_embeddedCode alike]
  rfl

/-- What stands in the place of a placeholder depends on the text of its source alone. -/
theorem value_embed_withLoader {placeholder : Element}
    (alike : ∀ directive, EmbedDirective.ofElement? placeholder = some directive →
      r.LoadsAlike loader (r.options.vars.substitute directive.sourcePath).value) :
    ((r.withLoader loader).embed placeholder).value = (r.embed placeholder).value := by
  rw [embed, embed]
  cases asked : EmbedDirective.ofElement? placeholder with
  | none => rfl
  | some directive =>
      have same := toOption_embedFrom (alike directive asked) placeholder directive
      have sameVars : (r.withLoader loader).options.vars = r.options.vars := rfl
      simp only [Noted.value_bind, sameVars]
      cases other : (r.withLoader loader).embedFrom placeholder directive
          (r.options.vars.substitute directive.sourcePath).value with
      | error e =>
          cases here : r.embedFrom placeholder directive
              (r.options.vars.substitute directive.sourcePath).value with
          | error e' => rfl
          | ok container' =>
              rw [other, here] at same
              cases same
      | ok container =>
          cases here : r.embedFrom placeholder directive
              (r.options.vars.substitute directive.sourcePath).value with
          | error e' =>
              rw [other, here] at same
              cases same
          | ok container' =>
              rw [other, here] at same
              rw [Option.some.inj same]

/-- Before its anchors are assigned, a page depends on the texts of the sources that it names. -/
theorem value_unanchored_withLoader (noImages : r.images = none) {d : Document}
    (alike : ∀ declared, PathName.join r.directory declared ∈ r.wantedSources d →
      r.LoadsAlike loader declared) :
    ((r.withLoader loader).unanchored d).value = (r.unanchored d).value := by
  have sameStart : (r.withLoader loader).beforeEmbeds d = r.beforeEmbeds d := rfl
  rw [value_unanchored, value_unanchored, sameStart]
  have embedded : Node.substituteIn isPlaceholder
        (fun e => ((r.withLoader loader).embed e).value) (r.beforeEmbeds d).children =
      Node.substituteIn isPlaceholder (fun e => (r.embed e).value) (r.beforeEmbeds d).children := by
    apply Node.substituteIn_congr
    intro e reached
    refine ⟨rfl, fun placeholder => value_embed_withLoader ?_⟩
    intro directive asked
    apply alike
    rw [← r.collectIn_wantedSource_beforeEmbeds noImages d]
    apply Node.mem_collectIn reached
    rw [wantedSource, if_pos placeholder, asked]
    exact List.mem_singleton_self _
  rw [embedded]
  rfl

theorem value_renderSafely_of_no_hooks (noHooks : r.hooks = []) (page : String) :
    (r.renderSafely page).value =
      (r.finish (r.unanchored (.ofPage page)).value.assignAnchors).value := by
  rw [renderSafely, render, renderDocument, r.transform_of_no_hooks noHooks]
  rfl

end Renderer

/-- A page is rendered the same from two stores that agree on the texts of the sources that it
names. -/
theorem RenderOptions.value_renderSafely_of_reads (o : RenderOptions) {tokenizer : Highlighter}
    {fs fs' : FileStore} {path page : String}
    (agree : ∀ source ∈ ((o.renderer tokenizer fs).beside path).wantedSources (.ofPage page),
      (fs'.readText source).toOption = (fs.readText source).toOption) :
    (((o.renderer tokenizer fs').beside path).renderSafely page).value =
      (((o.renderer tokenizer fs).beside path).renderSafely page).value := by
  have other : (o.renderer tokenizer fs').beside path =
      ((o.renderer tokenizer fs).beside path).withLoader fs'.loadSource := rfl
  have unanchored : (((o.renderer tokenizer fs').beside path).unanchored (.ofPage page)).value =
      (((o.renderer tokenizer fs).beside path).unanchored (.ofPage page)).value := by
    rw [other]
    apply Renderer.value_unanchored_withLoader rfl
    intro declared named
    have same := agree _ named
    change (fs'.loadSource _ declared).toOption = (fs.loadSource _ declared).toOption
    rw [FileStore.toOption_loadSource, FileStore.toOption_loadSource, same]
  rw [Renderer.value_renderSafely_of_no_hooks rfl, Renderer.value_renderSafely_of_no_hooks rfl,
    unanchored]
  rfl

end Folio
