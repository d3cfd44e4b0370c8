import Folio.Proofs.Page.SourceReading
import Folio.Proofs.Site.SeparateOutput

namespace Folio

open PathName

/-!
# Publishing again

A run reads the pages below the input directory and the sources that they name, and it writes below
the output directory.  Nothing keeps the two apart: the output directory may lie inside the input
directory, and a page may name what is written for it.  A second run is compared here with a first
that went well on every page.  If all that the first run read is read the same afterwards, then the
second run does again what the first did, place by place, as far as it has the same pages; and it
has them unless the first run has put further pages below the input directory.
-/

namespace FileStore

variable {fs known last second : FileStore} {outputDir page : String} {rendered : RenderedPage}

/-- What has been made for a file is there, and is not made again. -/
theorem Replays.withParent (replays : Replays last fs second) {path : String} {made : FileStore}
    (ready : fs.withParent path = .ok made) (continues : made.Continues last) :
    second.withParent path = .ok second ∧ Replays last made second := by
  rw [FileStore.withParent] at ready ⊢
  cases above : parent? path with
  | none =>
      rw [above] at ready
      rw [← Except.ok.inj ready]
      exact ⟨rfl, replays⟩
  | some parent =>
      rw [above] at ready
      exact replays.makeDirectories ready continues

/-- A page that has been written is written again. -/
theorem Replays.writePage (replays : Replays last fs second)
    (written : fs.writePage outputDir page rendered = (known, none))
    (continues : known.Continues last) :
    ∃ second', second.writePage outputDir page rendered = (second', none) ∧
      Replays last known second' := by
  rcases writePage_eq_whole_iff.mp written with ⟨made, shown, ready, markup, metadata⟩
  have afterMarkup := (continues_writeText metadata).trans continues
  have afterParent := (continues_writeText markup).trans afterMarkup
  rcases replays.withParent ready afterParent with ⟨readyAgain, replays⟩
  rcases replays.writeText markup afterMarkup with ⟨shownAgain, markupAgain, replays⟩
  rcases replays.writeText metadata continues with ⟨knownAgain, metadataAgain, replays⟩
  exact ⟨knownAgain, writePage_eq_whole_iff.mpr
    ⟨second, shownAgain, readyAgain, markupAgain, metadataAgain⟩, replays⟩

end FileStore

/-- Whether a page was read and rendered in a second run as it was in a first. -/
def SameResult (result again : String × Except String (Noted RenderedPage)) : Prop :=
  again.1 = result.1 ∧ again.2.toOption.map Noted.value = result.2.toOption.map Noted.value

namespace SiteRun

variable {inputDir outputDir : String} {last : FileStore}

/-- Whether a second run, which starts from `last`, has come as far as a first, which ends there. -/
structure Repeats (last : FileStore) (first second : SiteRun) : Prop where
  files : FileStore.Replays last first.files second.files
  report : second.report = first.report
  records : second.records = first.records

namespace Repeats

variable {first second : SiteRun} {result again : String × Except String (Noted RenderedPage)}

/-- A turn that went well goes well again. -/
theorem add (repeats : Repeats last first second) (same : SameResult result again)
    (noFailure : (first.add inputDir outputDir result).report.failed = [])
    (continues : (first.add inputDir outputDir result).files.Continues last) :
    Repeats last (first.add inputDir outputDir result) (second.add inputDir outputDir again) := by
  rcases exists_written_of_no_failure noFailure with ⟨-, rendered, files, isRendered, written⟩
  rcases result with ⟨path, result⟩
  rcases again with ⟨path', result'⟩
  rcases same with ⟨rfl, sameValue⟩
  subst isRendered
  cases result' with
  | error reason => cases sameValue
  | ok rendered' =>
      have sameValue : rendered'.value = rendered.value := Option.some.inj sameValue
      rw [add_of_written written] at continues ⊢
      rcases repeats.files.writePage written continues with ⟨files', writtenAgain, replays⟩
      rw [← sameValue] at writtenAgain
      rw [add_of_written writtenAgain]
      refine ⟨replays, ?_, ?_⟩
      · dsimp only
        rw [repeats.report]
      · dsimp only
        rw [repeats.records, sameValue]

/-- A run in which no page failed goes as well again. -/
theorem foldl_add {results again : List (String × Except String (Noted RenderedPage))}
    (same : List.Forall₂ SameResult results again) (repeats : Repeats last first second)
    (noFailure : (results.foldl (SiteRun.add inputDir outputDir) first).report.failed = [])
    (continues : (results.foldl (SiteRun.add inputDir outputDir) first).files.Continues last) :
    Repeats last (results.foldl (SiteRun.add inputDir outputDir) first)
      (again.foldl (SiteRun.add inputDir outputDir) second) := by
  induction same generalizing first second with
  | nil => exact repeats
  | cons here _ inductionHypothesis =>
      rw [List.foldl_cons] at noFailure continues ⊢
      rw [List.foldl_cons]
      have later := continues_foldl_add noFailure
      exact inductionHypothesis
        (repeats.add here (failed_eq_nil_of_foldl noFailure) (later.trans continues))
        noFailure continues

end Repeats

end SiteRun

/-! ## The site again -/

/-- Whether two stores agree on the text at a path, if there is one. -/
def FileStore.SameText (fs fs' : FileStore) (path : String) : Prop :=
  (fs'.readText path).toOption = (fs.readText path).toOption

namespace Config

variable {c : Config} {tokenizer : Highlighter} {fs ready : FileStore} {inputDir : String}
  {report : SiteReport}

/-- The paths of the sources that the pages of a site name. -/
def sourcesRead (c : Config) (tokenizer : Highlighter) (ready : FileStore) (inputDir : String) :
    List String :=
  (ready.pagesBelow inputDir).flatMap fun path =>
    match ready.readText path with
    | .ok page =>
      ((c.renderOptions.renderer tokenizer ready).beside path).wantedSources (.ofPage page)
    | .error _ => []

/-- Pages whose texts and sources are read the same are rendered the same. -/
theorem forall₂_renderedPages {last : FileStore}
    (samePages : last.pagesBelow inputDir = ready.pagesBelow inputDir)
    (sameTexts : ∀ path ∈ ready.pagesBelow inputDir, ready.SameText last path)
    (sameSources : ∀ path ∈ c.sourcesRead tokenizer ready inputDir, ready.SameText last path) :
    List.Forall₂ SameResult (c.renderedPages tokenizer ready inputDir)
      (c.renderedPages tokenizer last inputDir) := by
  rw [renderedPages, renderedPages, Renderer.renderBatch, Renderer.renderBatch, samePages,
    List.forall₂_map_left_iff, List.forall₂_map_right_iff, List.forall₂_same]
  intro path isPage
  have samePage := sameTexts path isPage
  refine ⟨rfl, ?_⟩
  dsimp only
  rw [FileStore.SameText] at samePage
  cases isRead : ready.readText path with
  | error e =>
      rw [isRead] at samePage
      cases isReadAgain : last.readText path with
      | error e' => rfl
      | ok page' =>
          rw [isReadAgain] at samePage
          cases samePage
  | ok page =>
      rw [isRead] at samePage
      cases isReadAgain : last.readText path with
      | error e' =>
          rw [isReadAgain] at samePage
          cases samePage
      | ok page' =>
          rw [isReadAgain] at samePage
          have samePage : page' = page := Option.some.inj samePage
          subst samePage
          refine congrArg some (c.renderOptions.value_renderSafely_of_reads ?_)
          intro source named
          apply sameSources
          refine List.mem_flatMap.mpr ⟨path, isPage, ?_⟩
          rw [isRead]
          exact named

theorem checkedInput_of_isDirectory {fs' : FileStore} (checked : c.checkedInput fs = .ok inputDir)
    (isDirectory : fs'.isDirectory inputDir = true) : c.checkedInput fs' = .ok inputDir := by
  rw [checkedInput] at checked ⊢
  split at checked
  · cases checked
  · split at checked
    · rw [Except.ok.inj checked, if_pos isDirectory]
    · cases checked

namespace WentWell

variable (well : c.WentWell tokenizer fs ready inputDir report)

include well

/-- The input directory is there for a second run. -/
theorem checkedInput_again : c.checkedInput (c.generateSite tokenizer fs).files = .ok inputDir :=
  checkedInput_of_isDirectory well.checked (well.continues.isDirectory well.isDirectory)

/-- The output directory is there for a second run. -/
theorem makeDirectories_again :
    (c.generateSite tokenizer fs).files.makeDirectories c.outputDir =
      .ok (c.generateSite tokenizer fs).files :=
  ((FileStore.Replays.start _ fs).makeDirectories well.made well.continues).1

/-- A run that reads the same a second time ends the same way. -/
theorem again
    (samePages :
      (c.generateSite tokenizer fs).files.pagesBelow inputDir = ready.pagesBelow inputDir)
    (sameTexts : ∀ path ∈ ready.pagesBelow inputDir,
      ready.SameText (c.generateSite tokenizer fs).files path)
    (sameSources : ∀ path ∈ c.sourcesRead tokenizer ready inputDir,
      ready.SameText (c.generateSite tokenizer fs).files path) :
    (c.generateSite tokenizer (c.generateSite tokenizer fs).files).result = .ok report ∧
      (c.generateSite tokenizer (c.generateSite tokenizer fs).files).files =
        (c.generateSite tokenizer fs).files := by
  have repeats : SiteRun.Repeats (c.generateSite tokenizer fs).files
      (c.siteRun tokenizer ready inputDir)
      (c.siteRun tokenizer (c.generateSite tokenizer fs).files inputDir) :=
    SiteRun.Repeats.foldl_add (forall₂_renderedPages samePages sameTexts sameSources)
      ⟨FileStore.Replays.start _ ready, rfl, rfl⟩ well.no_failure_siteRun well.siteRun_continues
  have sameReport := repeats.report.trans well.report_eq
  rw [generateSite_eq well.checkedInput_again well.makeDirectories_again, writePages_eq]
  rcases well.ended with ⟨disabled, same⟩ | ⟨enabled, written⟩
  · have replays := repeats.files
    rw [← same] at replays
    rw [disabled]
    exact ⟨congrArg Except.ok sameReport, replays.eq⟩
  · rcases repeats.files.writeText written (FileStore.Continues.refl _) with
      ⟨files, writtenAgain, replays⟩
    rw [enabled, if_pos rfl, repeats.records, writtenAgain]
    exact ⟨congrArg Except.ok sameReport, replays.eq⟩

end WentWell

end Config

end Folio
