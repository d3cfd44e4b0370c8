import Folio.Proofs.Files.FileStore
import Folio.Site.Generation
import Mathlib.Data.List.Induction

namespace Folio

open PathName

/-!
# What a run leaves in the place of a page

All pages are read and rendered before the first is written, and then each is written to a place
that its name determines.  What has been written stays until a later page is written to the same
place, or until the search index is.  Pages have one place if their names differ at most in the
extension: a page is known by an extension in letters of either case, and is written with the one in
small letters.  The search index has a name that the metadata of a page may have as well.
-/

theorem isExtension_html : IsExtension "html" := ⟨by decide, by decide, by decide⟩

theorem isExtension_json : IsExtension "json" := ⟨by decide, by decide, by decide⟩

theorem outputPath_eq (outputDir : String) {page : String} (plain : IsPlain page) :
    outputPath outputDir page = join outputDir (withExtension page "html") :=
  withExtension_join outputDir plain isExtension_html

theorem metadataPath_eq (outputDir : String) {page : String} (plain : IsPlain page) :
    metadataPath outputDir page = join outputDir (withExtension page "json") := by
  rw [metadataPath, outputPath_eq outputDir plain,
    withExtension_join outputDir (plain.withExtension isExtension_html) isExtension_json,
    withExtension_withExtension plain isExtension_html isExtension_json]

/-- Whether a path is written when a page is. -/
def IsPlaceOf (page path : String) : Prop :=
  path = withExtension page "html" ∨ path = withExtension page "json"

/-- The markup of one page and the metadata of another have different places. -/
theorem html_ne_json {page other : String} (plain : IsPlain page) (plainOther : IsPlain other) :
    withExtension page "html" ≠ withExtension other "json" := by
  intro same
  have read := extension?_withExtension plain isExtension_html
  rw [same, extension?_withExtension plainOther isExtension_json] at read
  exact absurd (Option.some.inj read) (by decide)

/-- Pages whose metadata has one place have their markup in one place, and the other way round. -/
theorem json_eq_iff {page other : String} (plain : IsPlain page) (plainOther : IsPlain other) :
    withExtension page "json" = withExtension other "json" ↔
      withExtension page "html" = withExtension other "html" := by
  constructor
  · intro same
    rw [← withExtension_withExtension plain isExtension_json isExtension_html, same,
      withExtension_withExtension plainOther isExtension_json isExtension_html]
  · intro same
    rw [← withExtension_withExtension plain isExtension_html isExtension_json, same,
      withExtension_withExtension plainOther isExtension_html isExtension_json]

/-- Pages whose markup has different places share no place at all. -/
theorem not_isPlaceOf_of_html_ne {page other : String} (plain : IsPlain page)
    (plainOther : IsPlain other)
    (different : withExtension other "html" ≠ withExtension page "html") :
    ¬ IsPlaceOf other (withExtension page "html") ∧
      ¬ IsPlaceOf other (withExtension page "json") := by
  constructor
  · rintro (same | same)
    · exact different same.symm
    · exact html_ne_json plain plainOther same
  · rintro (same | same)
    · exact html_ne_json plainOther plain same.symm
    · exact different ((json_eq_iff plain plainOther).mp same).symm

/-- How the writing of a page may end: at the directories, at the markup, at the metadata, or
well. -/
inductive PageWritten (fs : FileStore) (outputDir page : String) (rendered : RenderedPage) :
    FileStore × Option WriteError → Prop where
  | noDirectory (e : WriteError) : PageWritten fs outputDir page rendered (fs, some e)
  | noMarkup {made : FileStore} (e : WriteError) (adds : fs.AddsDirectories made) :
      PageWritten fs outputDir page rendered (made, some e)
  | noMetadata {made shown : FileStore} (e : WriteError) (adds : fs.AddsDirectories made)
      (markup : made.writeText (outputPath outputDir page) rendered.markup = .ok shown) :
      PageWritten fs outputDir page rendered (shown, some e)
  | whole {made shown known : FileStore} (adds : fs.AddsDirectories made)
      (markup : made.writeText (outputPath outputDir page) rendered.markup = .ok shown)
      (metadata : shown.writeText (metadataPath outputDir page)
        (rendered.metadata (pageId page)) = .ok known) :
      PageWritten fs outputDir page rendered (known, none)

theorem FileStore.pageWritten (fs : FileStore) (outputDir page : String)
    (rendered : RenderedPage) :
    PageWritten fs outputDir page rendered (fs.writePage outputDir page rendered) := by
  unfold FileStore.writePage
  dsimp only
  split
  · exact .noDirectory _
  · next ready made =>
      have adds : fs.AddsDirectories ready := by
        split at made
        · rw [← Except.ok.inj made]
          exact FileStore.AddsDirectories.refl fs
        · next parent _ =>
            cases result : fs.makeDirectories parent with
            | error e =>
                rw [result] at made
                cases made
            | ok store =>
                rw [result] at made
                rw [← Except.ok.inj made]
                exact FileStore.addsDirectories_makeDirectories result
      split
      · exact .noMarkup _ adds
      · next markup =>
          split
          · exact .noMetadata _ adds markup
          · next metadata => exact .whole adds markup metadata

namespace PageWritten

variable {fs : FileStore} {outputDir page : String} {rendered : RenderedPage}
  {outcome : FileStore × Option WriteError}

/-- A page that is written without an error can be read, and so can its metadata. -/
theorem readText_self (written : PageWritten fs outputDir page rendered outcome)
    (plain : IsPlain page) (wentWell : outcome.2 = none) :
    outcome.1.readText (join outputDir (withExtension page "html")) = .ok rendered.markup ∧
      outcome.1.readText (join outputDir (withExtension page "json")) =
        .ok (rendered.metadata (pageId page)) := by
  cases written with
  | noDirectory e => cases wentWell
  | noMarkup e adds => cases wentWell
  | noMetadata e adds markup => cases wentWell
  | whole adds markup metadata =>
      -- The markup is written first and has to outlast the writing of the metadata.
      rw [outputPath_eq outputDir plain] at markup
      rw [metadataPath_eq outputDir plain] at metadata
      refine ⟨?_, FileStore.readText_writeText_self metadata⟩
      apply FileStore.readText_writeText_join_of_ne (plain.withExtension isExtension_html)
        (plain.withExtension isExtension_json) (html_ne_json plain plain) metadata
      exact FileStore.readText_writeText_self markup

/-- Writing a page leaves alone what has another place. -/
theorem readText_of_not_isPlaceOf (written : PageWritten fs outputDir page rendered outcome)
    {path content : String} (plain : IsPlain page) (plainPath : IsPlain path)
    (other : ¬ IsPlaceOf page path) (isRead : fs.readText (join outputDir path) = .ok content) :
    outcome.1.readText (join outputDir path) = .ok content := by
  have keptByMarkup : ∀ {made shown : FileStore}, fs.AddsDirectories made →
      made.writeText (outputPath outputDir page) rendered.markup = .ok shown →
        shown.readText (join outputDir path) = .ok content := by
    intro made shown adds markup
    rw [outputPath_eq outputDir plain] at markup
    exact FileStore.readText_writeText_join_of_ne plainPath (plain.withExtension isExtension_html)
      (fun same => other (Or.inl same)) markup (adds.readText isRead)
  cases written with
  | noDirectory e => exact isRead
  | noMarkup e adds => exact adds.readText isRead
  | noMetadata e adds markup => exact keptByMarkup adds markup
  | whole adds markup metadata =>
      rw [metadataPath_eq outputDir plain] at metadata
      exact FileStore.readText_writeText_join_of_ne plainPath (plain.withExtension isExtension_json)
        (fun same => other (Or.inr same)) metadata (keptByMarkup adds markup)

end PageWritten

/-! ## Writing all pages -/

/-- The name of a page as seen from the input directory. -/
def pageName (inputDir path : String) : String := (relativeTo? inputDir path).getD path

namespace SiteRun

variable {inputDir outputDir : String}

theorem files_add_ok (run : SiteRun) (path : String) (rendered : Noted RenderedPage) :
    (run.add inputDir outputDir (path, .ok rendered)).files =
      (run.files.writePage outputDir (pageName inputDir path) rendered.value).1 := by
  rw [add]
  dsimp only
  rw [← pageName]
  rcases run.files.writePage outputDir (pageName inputDir path) rendered.value with ⟨files, failure⟩
  cases failure <;> rfl

/-- A page is listed when it has been written without an error. -/
theorem mem_pages_add {run : SiteRun} {result : String × Except String (Noted RenderedPage)}
    {page : String} (member : page ∈ (run.add inputDir outputDir result).report.pages) :
    page ∈ run.report.pages ∨ ∃ rendered, result.2 = .ok rendered ∧
      page = pageName inputDir result.1 ∧
      (run.files.writePage outputDir page rendered.value).2 = none := by
  rcases result with ⟨path, result⟩
  cases result with
  | error reason => exact Or.inl member
  | ok rendered =>
      rw [add] at member
      dsimp only at member
      rw [← pageName] at member
      cases written : run.files.writePage outputDir (pageName inputDir path) rendered.value with
      | mk files failure =>
          rw [written] at member
          cases failure with
          | some e => exact Or.inl member
          | none =>
              rcases List.mem_append.mp member with before | here
              · exact Or.inl before
              · have same := List.mem_singleton.mp here
                exact Or.inr ⟨rendered, rfl, same, by rw [same, written]⟩

/-- Every page that a run lists is written at one of its steps. -/
theorem exists_step_of_mem_pages {run : SiteRun}
    {results : List (String × Except String (Noted RenderedPage))} {page : String}
    (member : page ∈ (results.foldl (add inputDir outputDir) run).report.pages) :
    page ∈ run.report.pages ∨ ∃ earlier path rendered later,
      results = earlier ++ (path, .ok rendered) :: later ∧ page = pageName inputDir path ∧
      ((earlier.foldl (add inputDir outputDir) run).files.writePage outputDir page
        rendered.value).2 = none := by
  -- The list of pages grows at its end, so the results are taken from their end.
  induction results using List.reverseRecOn with
  | nil => exact Or.inl member
  | append_singleton results result inductionHypothesis =>
      rw [List.foldl_append, List.foldl_cons, List.foldl_nil] at member
      rcases mem_pages_add member with before | ⟨rendered, isRendered, same, wentWell⟩
      · rcases inductionHypothesis before with
          atStart | ⟨earlier, path, rendered, later, divided, same, wentWell⟩
        · exact Or.inl atStart
        · refine Or.inr ⟨earlier, path, rendered, later ++ [result], ?_, same, wentWell⟩
          rw [divided, List.append_assoc]
          rfl
      · refine Or.inr ⟨results, result.1, rendered, [], ?_, same, wentWell⟩
        rw [← isRendered]

/-- What one step writes elsewhere leaves a file alone. -/
theorem readText_add {run : SiteRun} {result : String × Except String (Noted RenderedPage)}
    {path content : String} (plainPath : IsPlain path)
    (plain : IsPlain (pageName inputDir result.1))
    (other : ∀ rendered, result.2 = .ok rendered → ¬ IsPlaceOf (pageName inputDir result.1) path)
    (isRead : run.files.readText (join outputDir path) = .ok content) :
    (run.add inputDir outputDir result).files.readText (join outputDir path) = .ok content := by
  rcases result with ⟨source, result⟩
  cases result with
  | error reason => exact isRead
  | ok rendered =>
      rw [files_add_ok]
      exact (run.files.pageWritten outputDir _ rendered.value).readText_of_not_isPlaceOf plain
        plainPath (other rendered rfl) isRead

/-- What all further steps write elsewhere leaves a file alone. -/
theorem readText_foldl_add {run : SiteRun}
    {results : List (String × Except String (Noted RenderedPage))} {path content : String}
    (plainPath : IsPlain path)
    (others : ∀ result ∈ results, IsPlain (pageName inputDir result.1) ∧
      ∀ rendered, result.2 = .ok rendered → ¬ IsPlaceOf (pageName inputDir result.1) path)
    (isRead : run.files.readText (join outputDir path) = .ok content) :
    (results.foldl (add inputDir outputDir) run).files.readText (join outputDir path) =
      .ok content := by
  induction results generalizing run with
  | nil => exact isRead
  | cons result results inductionHypothesis =>
      rcases others result List.mem_cons_self with ⟨plain, other⟩
      rw [List.foldl_cons]
      apply inductionHypothesis
      · exact fun later member => others later (List.mem_cons_of_mem result member)
      · exact readText_add plainPath plain other isRead

/-- A page that is written at some step can be read at the end, and so can its metadata, if no later
step writes a page to its place. -/
theorem readText_of_step {run : SiteRun}
    {earlier later : List (String × Except String (Noted RenderedPage))} {path : String}
    {rendered : Noted RenderedPage} (plain : IsPlain (pageName inputDir path))
    (wentWell : ((earlier.foldl (add inputDir outputDir) run).files.writePage outputDir
      (pageName inputDir path) rendered.value).2 = none)
    (plainLater : ∀ result ∈ later, IsPlain (pageName inputDir result.1))
    (apart : ∀ result ∈ later, ∀ other, result.2 = .ok other →
      withExtension (pageName inputDir result.1) "html" ≠
        withExtension (pageName inputDir path) "html") :
    ((earlier ++ (path, .ok rendered) :: later).foldl (add inputDir outputDir) run).files.readText
        (join outputDir (withExtension (pageName inputDir path) "html")) =
      .ok rendered.value.markup ∧
    ((earlier ++ (path, .ok rendered) :: later).foldl (add inputDir outputDir) run).files.readText
        (join outputDir (withExtension (pageName inputDir path) "json")) =
      .ok (rendered.value.metadata (pageId (pageName inputDir path))) := by
  have shared : ∀ result ∈ later, ∀ other, result.2 = .ok other →
      ¬ IsPlaceOf (pageName inputDir result.1) (withExtension (pageName inputDir path) "html") ∧
      ¬ IsPlaceOf (pageName inputDir result.1) (withExtension (pageName inputDir path) "json") :=
    fun result member other isRendered =>
      not_isPlaceOf_of_html_ne plain (plainLater result member)
        (apart result member other isRendered)
  have written := ((earlier.foldl (add inputDir outputDir) run).files.pageWritten outputDir
    (pageName inputDir path) rendered.value).readText_self plain wentWell
  rw [← files_add_ok] at written
  rw [List.foldl_append, List.foldl_cons]
  constructor
  · apply readText_foldl_add (plain.withExtension isExtension_html) _ written.1
    exact fun result member => ⟨plainLater result member,
      fun other isRendered => (shared result member other isRendered).1⟩
  · apply readText_foldl_add (plain.withExtension isExtension_json) _ written.2
    exact fun result member => ⟨plainLater result member,
      fun other isRendered => (shared result member other isRendered).2⟩

end SiteRun

/-! ## The pages of a site -/

namespace FileStore

variable {fs : FileStore} {inputDir : String}

theorem pagesBelow_of_sorted {paths : List String}
    (found : ((fs.filesBelow inputDir).filter fun path =>
      (extension? path).any (Text.equalIgnoringCase pageExtension)) = paths)
    (sorted : paths.Pairwise fun first second => PathName.le first second = true) :
    fs.pagesBelow inputDir = paths := by
  rw [pagesBelow, found]
  exact List.mergeSort_of_pairwise sorted

theorem nodup_pagesBelow (wellNamed : fs.WellNamed) (inputDir : String) :
    (fs.pagesBelow inputDir).Nodup :=
  (List.mergeSort_perm _ _).nodup_iff.mpr ((nodup_filesBelow wellNamed inputDir).filter _)

/-- Seen from the input directory, a page has a plain path. -/
theorem exists_relativeTo?_of_mem_pagesBelow (wellNamed : fs.WellNamed)
    (isDirectory : fs.isDirectory inputDir = true) {path : String}
    (member : path ∈ fs.pagesBelow inputDir) :
    ∃ page, relativeTo? inputDir path = some page ∧ IsPlain page := by
  have isFile := (List.mem_filter.mp (List.mem_mergeSort.mp member)).1
  rcases exists_names_of_mem_filesBelow wellNamed isDirectory isFile with
    ⟨names, nonempty, isNames, rfl⟩
  refine ⟨_, relativeTo?_foldl_join inputDir isNames, ?_⟩
  intro piece isPiece
  rw [pieces_of_names nonempty isNames] at isPiece
  exact isNames piece isPiece

end FileStore

namespace Config

variable {c : Config} {tokenizer : Highlighter} {fs : FileStore} {report : SiteReport}

theorem map_fst_renderedPages (c : Config) (tokenizer : Highlighter) (fs : FileStore)
    (inputDir : String) :
    (c.renderedPages tokenizer fs inputDir).map Prod.fst = fs.pagesBelow inputDir := by
  rw [renderedPages, Renderer.renderBatch, List.map_map]
  exact List.map_id _

theorem isDirectory_of_checkedInput {inputDir : String}
    (checked : c.checkedInput fs = .ok inputDir) : fs.isDirectory inputDir = true := by
  rw [checkedInput] at checked
  split at checked
  · cases checked
  · split at checked
    · next isDirectory =>
        rw [← Except.ok.inj checked]
        exact isDirectory
    · cases checked

theorem generateSite_eq {inputDir : String} {ready : FileStore}
    (checked : c.checkedInput fs = .ok inputDir)
    (made : fs.makeDirectories c.outputDir = .ok ready) :
    c.generateSite tokenizer fs =
      c.writePages ready inputDir (c.renderedPages tokenizer ready inputDir) := by
  rw [generateSite, checked]
  dsimp only
  rw [made]

/-- The writing of all pages of a site. -/
def siteRun (c : Config) (tokenizer : Highlighter) (ready : FileStore) (inputDir : String) :
    SiteRun :=
  (c.renderedPages tokenizer ready inputDir).foldl (SiteRun.add inputDir c.outputDir)
    { files := ready }

theorem writePages_eq (c : Config) (tokenizer : Highlighter) (ready : FileStore)
    (inputDir : String) :
    c.writePages ready inputDir (c.renderedPages tokenizer ready inputDir) =
      if c.searchEnabled then
        match (c.siteRun tokenizer ready inputDir).files.writeText (searchIndexPath c.outputDir)
          (searchIndex (c.siteRun tokenizer ready inputDir).records) with
        | .ok files =>
          ⟨files, (c.siteRun tokenizer ready inputDir).notices,
            .ok (c.siteRun tokenizer ready inputDir).report⟩
        | .error e =>
          ⟨(c.siteRun tokenizer ready inputDir).files,
            (c.siteRun tokenizer ready inputDir).notices,
            .error (.searchIndex (searchIndexPath c.outputDir) e)⟩
      else
        ⟨(c.siteRun tokenizer ready inputDir).files, (c.siteRun tokenizer ready inputDir).notices,
          .ok (c.siteRun tokenizer ready inputDir).report⟩ :=
  rfl

/-- A site is finished when all its pages have been written, as far as they can be, and the search
index has been written if it is wanted. -/
theorem exists_run_of_generateSite (finished : (c.generateSite tokenizer fs).result = .ok report) :
    ∃ inputDir ready, c.checkedInput fs = .ok inputDir ∧
      fs.makeDirectories c.outputDir = .ok ready ∧
      (c.siteRun tokenizer ready inputDir).report = report ∧
      ((c.searchEnabled = false ∧
          (c.generateSite tokenizer fs).files = (c.siteRun tokenizer ready inputDir).files) ∨
        (c.searchEnabled = true ∧
          (c.siteRun tokenizer ready inputDir).files.writeText (searchIndexPath c.outputDir)
            (searchIndex (c.siteRun tokenizer ready inputDir).records) =
              .ok (c.generateSite tokenizer fs).files)) := by
  cases checked : c.checkedInput fs with
  | error e =>
      rw [generateSite, checked] at finished
      cases finished
  | ok inputDir =>
      cases made : fs.makeDirectories c.outputDir with
      | error e =>
          rw [generateSite, checked] at finished
          dsimp only at finished
          rw [made] at finished
          cases finished
      | ok ready =>
          rw [generateSite_eq checked made, writePages_eq] at finished ⊢
          refine ⟨inputDir, ready, rfl, rfl, ?_⟩
          cases enabled : c.searchEnabled with
          | false =>
              rw [enabled] at finished
              exact ⟨Except.ok.inj finished, Or.inl ⟨rfl, rfl⟩⟩
          | true =>
              rw [enabled, if_pos rfl] at finished
              cases written : (c.siteRun tokenizer ready inputDir).files.writeText
                  (searchIndexPath c.outputDir)
                  (searchIndex (c.siteRun tokenizer ready inputDir).records) with
              | error e =>
                  rw [written] at finished
                  cases finished
              | ok files =>
                  rw [written] at finished
                  exact ⟨Except.ok.inj finished, Or.inr ⟨rfl, rfl⟩⟩

theorem isPlain_searchIndex : IsPlain "search-fragments.json" :=
  IsName.isPlain (by decide)

theorem html_ne_searchIndex {page : String} (plain : IsPlain page) :
    withExtension page "html" ≠ "search-fragments.json" := by
  have index : withExtension "search-fragments" "json" = "search-fragments.json" := by
    decide +kernel
  rw [← index]
  exact html_ne_json plain (IsName.isPlain (by decide))

/-- The metadata of a page is no search index: it is an object, and that is a list. -/
theorem metadata_ne_searchIndex (p : RenderedPage) (id : String) (records : List SiteRecord) :
    p.metadata id ≠ searchIndex records := by
  have isObject : (p.metadata id).toList.head? = some '\x7b' := by
    simp [RenderedPage.metadata, JsonTree.pretty, JsonTree.block, JsonTree.prettyFields]
  have isList : (searchIndex records).toList.head? = some '[' := by
    simp [searchIndex, JsonTree.compact]
  intro same
  rw [same, isList] at isObject
  exact absurd (Option.some.inj isObject) (by decide)

/-- What stands in the output directory when all pages have been written stays, unless it has the
place of the search index. -/
theorem readText_generateSite {inputDir : String} {ready : FileStore}
    (ended : (c.searchEnabled = false ∧
        (c.generateSite tokenizer fs).files = (c.siteRun tokenizer ready inputDir).files) ∨
      (c.searchEnabled = true ∧
        (c.siteRun tokenizer ready inputDir).files.writeText (searchIndexPath c.outputDir)
          (searchIndex (c.siteRun tokenizer ready inputDir).records) =
            .ok (c.generateSite tokenizer fs).files))
    {path content : String} (plain : IsPlain path)
    (apart : c.searchEnabled = true → path ≠ "search-fragments.json")
    (isRead :
      (c.siteRun tokenizer ready inputDir).files.readText (join c.outputDir path) = .ok content) :
    (c.generateSite tokenizer fs).files.readText (join c.outputDir path) = .ok content := by
  rcases ended with ⟨-, same⟩ | ⟨enabled, written⟩
  · rw [same]
    exact isRead
  · exact FileStore.readText_writeText_join_of_ne plain isPlain_searchIndex (apart enabled) written
      isRead

/-- Seen from the input directory, a page that is rendered has a plain path. -/
theorem relativeTo?_of_mem_renderedPages {inputDir : String} (wellNamed : fs.WellNamed)
    (isDirectory : fs.isDirectory inputDir = true)
    {result : String × Except String (Noted RenderedPage)}
    (member : result ∈ c.renderedPages tokenizer fs inputDir) :
    relativeTo? inputDir result.1 = some (pageName inputDir result.1) ∧
      IsPlain (pageName inputDir result.1) := by
  have isPage : result.1 ∈ fs.pagesBelow inputDir := by
    rw [← map_fst_renderedPages c tokenizer fs inputDir]
    exact List.mem_map_of_mem member
  rcases FileStore.exists_relativeTo?_of_mem_pagesBelow wellNamed isDirectory isPage with
    ⟨page, seen, plain⟩
  rw [pageName, seen]
  exact ⟨rfl, plain⟩

/-- No page is rendered twice. -/
theorem ne_of_mem_later {inputDir path : String} (wellNamed : fs.WellNamed)
    {rendered : Except String (Noted RenderedPage)}
    {earlier later : List (String × Except String (Noted RenderedPage))}
    (divided : c.renderedPages tokenizer fs inputDir = earlier ++ (path, rendered) :: later) :
    ∀ result ∈ later, result.1 ≠ path := by
  intro result member same
  have distinct := FileStore.nodup_pagesBelow wellNamed inputDir
  rw [← map_fst_renderedPages c tokenizer, divided, List.map_append, List.map_cons] at distinct
  have onlyHere := (List.nodup_cons.mp (List.nodup_append.mp distinct).2.1).1
  have isThere : result.1 ∈ later.map Prod.fst := List.mem_map_of_mem member
  rw [same] at isThere
  exact onlyHere isThere

/-- Every page that a finished run lists comes from a source page below the input directory.  If no
source page that is written later has the same place, the markup of the page is in its place in the
output directory at the end, and so is its metadata, unless that has the place of the search index.
There the search index stands, if it is wanted. -/
theorem generateSite_keeps_pages (wellNamed : fs.WellNamed)
    (finished : (c.generateSite tokenizer fs).result = .ok report) :
    ∃ inputDir ready, c.checkedInput fs = .ok inputDir ∧
      fs.makeDirectories c.outputDir = .ok ready ∧
      (c.searchEnabled = true →
        (c.generateSite tokenizer fs).files.readText (searchIndexPath c.outputDir) =
          .ok (searchIndex (c.siteRun tokenizer ready inputDir).records)) ∧
      ∀ page ∈ report.pages, ∃ earlier path rendered later,
        c.renderedPages tokenizer ready inputDir = earlier ++ (path, .ok rendered) :: later ∧
        relativeTo? inputDir path = some page ∧ (∀ result ∈ later, result.1 ≠ path) ∧
        ((∀ result ∈ later, ∀ other, result.2 = .ok other →
            withExtension (pageName inputDir result.1) "html" ≠ withExtension page "html") →
          (c.generateSite tokenizer fs).files.readText
            (join c.outputDir (withExtension page "html")) = .ok rendered.value.markup ∧
          ((c.searchEnabled = true → withExtension page "json" ≠ "search-fragments.json") →
            (c.generateSite tokenizer fs).files.readText
              (join c.outputDir (withExtension page "json")) =
                .ok (rendered.value.metadata (pageId page)))) := by
  rcases exists_run_of_generateSite finished with ⟨inputDir, ready, checked, made, listed, ended⟩
  have adds := FileStore.addsDirectories_makeDirectories made
  have wellNamedReady := adds.wellNamed wellNamed
  have isDirectory := adds.isDirectory (isDirectory_of_checkedInput checked)
  refine ⟨inputDir, ready, checked, made, ?_, ?_⟩
  · intro enabled
    rcases ended with ⟨disabled, -⟩ | ⟨-, written⟩
    · rw [enabled] at disabled
      cases disabled
    · exact FileStore.readText_writeText_self written
  · intro page member
    rw [← listed, siteRun] at member
    rcases SiteRun.exists_step_of_mem_pages member with
      atStart | ⟨earlier, path, rendered, later, divided, rfl, wentWell⟩
    · cases atStart
    · have seen : ∀ result ∈ earlier ++ (path, .ok rendered) :: later,
          relativeTo? inputDir result.1 = some (pageName inputDir result.1) ∧
            IsPlain (pageName inputDir result.1) := by
        rw [← divided]
        exact fun result => relativeTo?_of_mem_renderedPages wellNamedReady isDirectory
      have here := seen (path, .ok rendered) (List.mem_append_right _ List.mem_cons_self)
      refine ⟨earlier, path, rendered, later, divided, here.1,
        ne_of_mem_later wellNamedReady divided, ?_⟩
      intro apart
      have plainLater : ∀ result ∈ later, IsPlain (pageName inputDir result.1) := by
        intro result member
        exact (seen result (List.mem_append_right _ (List.mem_cons_of_mem _ member))).2
      have written := SiteRun.readText_of_step here.2 wentWell plainLater apart
      rw [← divided] at written
      constructor
      · apply readText_generateSite ended (here.2.withExtension isExtension_html) _ written.1
        exact fun _ => html_ne_searchIndex here.2
      · intro elsewhere
        exact readText_generateSite ended (here.2.withExtension isExtension_json) elsewhere
          written.2

/-- The run of a site whose pages are known. -/
theorem generateSite_of_pages (tokenizer : Highlighter) {inputDir : String} {ready : FileStore}
    {paths : List String} (checked : c.checkedInput fs = .ok inputDir)
    (made : fs.makeDirectories c.outputDir = .ok ready)
    (pages : ready.pagesBelow inputDir = paths) :
    c.generateSite tokenizer fs = c.writePages ready inputDir
      ((c.renderOptions.renderer tokenizer ready).renderBatch
        (fun path => (ready.readText path).mapError FileError.message) paths) := by
  rw [generateSite_eq checked made, renderedPages, pages]

/-- Code that is not to be highlighted is the same to every tokenizing highlighter. -/
theorem generateSite_of_not_highlightCode (off : c.highlightCode = false)
    (tokenizer other : Highlighter) (fs : FileStore) :
    c.generateSite tokenizer fs = c.generateSite other fs := by
  have isOff : c.renderOptions.highlightCode = false := off
  have same : c.renderedPages tokenizer = c.renderedPages other := by
    funext ready inputDir
    rw [renderedPages, renderedPages, RenderOptions.renderer, RenderOptions.renderer,
      RenderOptions.highlighting, RenderOptions.highlighting, isOff]
    rfl
  rw [generateSite, generateSite, same]

/-- A configuration that names both directories of a site, and asks for no highlighting. -/
def inToOut : Config := { inputDir := some "in", outputDir := "out", highlightCode := false }

/-- A site with two pages. -/
def twoPages : FileStore where
  entries := Table.ofList
    [(["in"], .directory), (["in", "a.html"], .file (some "<p id=a>A")),
      (["in", "b.HTML"], .file (some "<p id=b>B"))]

/-- Neither page overwrites the other. -/
theorem generateSite_keeps_pages_twoPages :
    twoPages.WellNamed ∧
      (inToOut.generateSite .plain twoPages).result = .ok ⟨["a.html", "b.HTML"], []⟩ ∧
      ∀ page ∈ ["a.html", "b.HTML"], ∃ path rendered,
        relativeTo? "in" path = some page ∧
        (inToOut.generateSite .plain twoPages).files.readText
          (join "out" (withExtension page "html")) = .ok (RenderedPage.markup rendered) ∧
        (inToOut.generateSite .plain twoPages).files.readText
          (join "out" (withExtension page "json")) = .ok (rendered.metadata (pageId page)) := by
  have wellNamed : twoPages.WellNamed := by decide +kernel
  have checked : inToOut.checkedInput twoPages = .ok "in" := rfl
  have made : twoPages.makeDirectories inToOut.outputDir =
      .ok (twoPages.put ["out"] .directory) := rfl
  have pages : (twoPages.put ["out"] .directory).pagesBelow "in" = ["in/a.html", "in/b.HTML"] :=
    FileStore.pagesBelow_of_sorted (by decide +kernel) (by decide +kernel)
  have finished : (inToOut.generateSite .plain twoPages).result =
      .ok ⟨["a.html", "b.HTML"], []⟩ := by
    rw [generateSite_of_pages .plain checked made pages]
    decide +kernel
  have apart : ∀ first ∈ ["in/a.html", "in/b.HTML"], ∀ second ∈ ["in/a.html", "in/b.HTML"],
      first ≠ second → withExtension (pageName "in" first) "html" ≠
        withExtension (pageName "in" second) "html" := by
    decide +kernel
  have noIndex : ∀ page ∈ ["a.html", "b.HTML"],
      withExtension page "json" ≠ "search-fragments.json" := by
    decide +kernel
  refine ⟨wellNamed, finished, ?_⟩
  intro page member
  rcases generateSite_keeps_pages wellNamed finished with
    ⟨inputDir, ready, checked', made', -, kept⟩
  cases Except.ok.inj (checked.symm.trans checked')
  cases Except.ok.inj (made.symm.trans made')
  rcases kept page member with ⟨earlier, path, rendered, later, divided, seen, others, written⟩
  have sources := map_fst_renderedPages inToOut .plain (twoPages.put ["out"] .directory) "in"
  rw [divided, pages] at sources
  have isSource : ∀ result ∈ earlier ++ (path, .ok rendered) :: later,
      result.1 ∈ ["in/a.html", "in/b.HTML"] := by
    intro result isResult
    rw [← sources]
    exact List.mem_map_of_mem isResult
  have isHere := isSource (path, .ok rendered) (List.mem_append_right _ List.mem_cons_self)
  have places := written fun result isLater _ _ => by
    have isThere := isSource result (List.mem_append_right _ (List.mem_cons_of_mem _ isLater))
    have different := apart result.1 isThere path isHere (others result isLater)
    have here : pageName "in" path = page := by
      rw [pageName, seen]
      rfl
    rw [here] at different
    exact different
  exact ⟨path, rendered.value, seen, places.1, places.2 fun _ => noIndex page member⟩

/-- A site with a page whose metadata has the name of the search index. -/
def searchPage : FileStore where
  entries := Table.ofList
    [(["in"], .directory), (["in", "search-fragments.html"], .file (some "<p id=a>A"))]

/-- With every highlighter, the metadata of such a page is overwritten by the search index. -/
theorem not_forall_generateSite_keeps_pages :
    ¬ ∃ tokenizer : Highlighter, ∀ (c : Config) (fs : FileStore) (report : SiteReport)
      (inputDir : String), fs.WellNamed → c.checkedInput fs = .ok inputDir →
      relativeTo? inputDir c.outputDir = none →
      (c.generateSite tokenizer fs).result = .ok report →
      ∀ page ∈ report.pages, ∃ ready path rendered,
        fs.makeDirectories c.outputDir = .ok ready ∧
        (path, .ok rendered) ∈ c.renderedPages tokenizer ready inputDir ∧
        relativeTo? inputDir path = some page ∧
        (c.generateSite tokenizer fs).files.readText
          (join c.outputDir (withExtension page "html")) = .ok rendered.value.markup ∧
        (c.generateSite tokenizer fs).files.readText
          (join c.outputDir (withExtension page "json")) =
            .ok (rendered.value.metadata (pageId page)) := by
  rintro ⟨tokenizer, claimed⟩
  have checked : inToOut.checkedInput searchPage = .ok "in" := rfl
  have made : searchPage.makeDirectories inToOut.outputDir =
      .ok (searchPage.put ["out"] .directory) := rfl
  have pages : (searchPage.put ["out"] .directory).pagesBelow "in" =
      ["in/search-fragments.html"] :=
    FileStore.pagesBelow_of_sorted (by decide +kernel) (by decide +kernel)
  have finished : (inToOut.generateSite tokenizer searchPage).result =
      .ok ⟨["search-fragments.html"], []⟩ := by
    rw [generateSite_of_not_highlightCode rfl tokenizer .plain,
      generateSite_of_pages .plain checked made pages]
    decide +kernel
  rcases claimed inToOut searchPage _ "in" (by decide +kernel) checked (by decide +kernel) finished
    "search-fragments.html" List.mem_cons_self with ⟨_, _, rendered, -, -, -, -, isRead⟩
  rcases exists_run_of_generateSite finished with ⟨_, _, -, -, -, disabled | ⟨-, written⟩⟩
  · exact absurd disabled.1 (by decide)
  · have samePlace : join inToOut.outputDir (withExtension "search-fragments.html" "json") =
        searchIndexPath inToOut.outputDir := by
      decide +kernel
    rw [samePlace, FileStore.readText_writeText_self written] at isRead
    exact metadata_ne_searchIndex _ _ _ (Except.ok.inj isRead).symm

end Config

end Folio
