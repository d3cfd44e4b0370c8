import Folio.Proofs.Files.Replay
import Folio.Proofs.Site.PageAccount

namespace Folio

open PathName

/-!
# Runs in which no page fails

If no page fails, then every page has been rendered, its directory was there or could be made, and
both its files could be written.  What such a run leaves comes after what it started from: nothing
that stood there is gone, and no file has become a directory.
-/

namespace FileStore

variable {fs known : FileStore} {outputDir page : String} {rendered : RenderedPage}

/-- The store with the directory that a file is to stand in. -/
def withParent (fs : FileStore) (path : String) : Except FileError FileStore :=
  match parent? path with
  | none => .ok fs
  | some parent => fs.makeDirectories parent

/-- A page is written without an error if its directory can be made, and then its markup and its
metadata can be written. -/
theorem writePage_eq_whole_iff :
    fs.writePage outputDir page rendered = (known, none) ↔
      ∃ made shown, fs.withParent (outputPath outputDir page) = .ok made ∧
        made.writeText (outputPath outputDir page) rendered.markup = .ok shown ∧
        shown.writeText (metadataPath outputDir page) (rendered.metadata (pageId page)) =
          .ok known := by
  constructor
  · intro written
    unfold writePage at written
    dsimp only at written
    split at written
    · exact absurd (congrArg Prod.snd written) (by simp)
    · next made directory =>
        have ready : fs.withParent (outputPath outputDir page) = .ok made := by
          rw [withParent]
          cases above : parent? (outputPath outputDir page) with
          | none =>
              rw [above] at directory
              rw [Except.ok.inj directory]
          | some parent =>
              rw [above] at directory
              dsimp only at directory ⊢
              cases result : fs.makeDirectories parent with
              | error e =>
                  rw [result] at directory
                  cases directory
              | ok store =>
                  rw [result] at directory
                  rw [Except.ok.inj directory]
        split at written
        · exact absurd (congrArg Prod.snd written) (by simp)
        · next shown markup =>
            split at written
            · exact absurd (congrArg Prod.snd written) (by simp)
            · next metadata =>
                refine ⟨made, shown, ready, markup, ?_⟩
                rw [metadata, (Prod.mk.inj written).1]
  · rintro ⟨made, shown, ready, markup, metadata⟩
    rw [withParent] at ready
    unfold writePage
    dsimp only
    cases above : parent? (outputPath outputDir page) with
    | none =>
        rw [above] at ready
        dsimp only
        rw [Except.ok.inj ready, markup]
        dsimp only
        rw [metadata]
    | some parent =>
        rw [above] at ready
        dsimp only at ready ⊢
        rw [ready]
        dsimp only [Except.mapError]
        rw [markup]
        dsimp only
        rw [metadata]

theorem continues_withParent {path : String} {made : FileStore}
    (ready : fs.withParent path = .ok made) : fs.Continues made := by
  rw [withParent] at ready
  split at ready
  · rw [← Except.ok.inj ready]
    exact Continues.refl fs
  · exact continues_makeDirectories ready

theorem addsDirectories_withParent {path : String} {made : FileStore}
    (ready : fs.withParent path = .ok made) : fs.AddsDirectories made := by
  rw [withParent] at ready
  split at ready
  · rw [← Except.ok.inj ready]
    exact AddsDirectories.refl fs
  · exact addsDirectories_makeDirectories ready

theorem continues_writePage (written : fs.writePage outputDir page rendered = (known, none)) :
    fs.Continues known := by
  rcases writePage_eq_whole_iff.mp written with ⟨made, shown, ready, markup, metadata⟩
  exact (continues_withParent ready).trans
    ((continues_writeText markup).trans (continues_writeText metadata))

end FileStore

namespace SiteRun

variable {inputDir outputDir : String}

/-- What a turn that goes well adds to a run. -/
theorem add_of_written {run : SiteRun} {path : String} {rendered : Noted RenderedPage}
    {files : FileStore}
    (written : run.files.writePage outputDir (pageName inputDir path) rendered.value =
      (files, none)) :
    run.add inputDir outputDir (path, .ok rendered) =
      { files
        report := { run.report with pages := run.report.pages ++ [pageName inputDir path] }
        records := run.records ++
          rendered.value.records.map (SiteRecord.mk (pageId (pageName inputDir path)))
        notices := run.notices ++ rendered.notices } := by
  rw [add]
  dsimp only
  rw [← pageName, written]

theorem files_add_of_written {run : SiteRun} {result : String × Except String (Noted RenderedPage)}
    {rendered : Noted RenderedPage} {files : FileStore} (isRendered : result.2 = .ok rendered)
    (written : run.files.writePage outputDir (pageName inputDir result.1) rendered.value =
      (files, none)) : (run.add inputDir outputDir result).files = files := by
  rcases result with ⟨path, result⟩
  subst isRendered
  rw [add_of_written written]

/-- A page that has not failed was rendered and written. -/
theorem exists_written_of_no_failure {run : SiteRun}
    {result : String × Except String (Noted RenderedPage)}
    (noFailure : (run.add inputDir outputDir result).report.failed = []) :
    run.report.failed = [] ∧ ∃ rendered files, result.2 = .ok rendered ∧
      run.files.writePage outputDir (pageName inputDir result.1) rendered.value =
        (files, none) := by
  rcases result with ⟨path, result⟩
  cases result with
  | error reason =>
      exact absurd noFailure (List.append_ne_nil_of_right_ne_nil _ (List.cons_ne_nil _ _))
  | ok rendered =>
      cases written : run.files.writePage outputDir (pageName inputDir path) rendered.value with
      | mk files failure =>
          cases failure with
          | none =>
              rw [add_of_written written] at noFailure
              exact ⟨noFailure, rendered, files, rfl, written⟩
          | some e =>
              rw [add] at noFailure
              dsimp only at noFailure
              rw [← pageName, written] at noFailure
              exact absurd noFailure (List.append_ne_nil_of_right_ne_nil _ (List.cons_ne_nil _ _))

/-- No page of a run has failed before if none has in the end. -/
theorem failed_eq_nil_of_foldl {run : SiteRun}
    {results : List (String × Except String (Noted RenderedPage))}
    (noFailure : (results.foldl (add inputDir outputDir) run).report.failed = []) :
    run.report.failed = [] := by
  rw [(accounts_foldl_add inputDir outputDir run results).2.1] at noFailure
  exact (List.append_eq_nil_iff.mp noFailure).1

theorem continues_foldl_add {run : SiteRun}
    {results : List (String × Except String (Noted RenderedPage))}
    (noFailure : (results.foldl (add inputDir outputDir) run).report.failed = []) :
    run.files.Continues (results.foldl (add inputDir outputDir) run).files := by
  induction results generalizing run with
  | nil => exact FileStore.Continues.refl run.files
  | cons result results inductionHypothesis =>
      rw [List.foldl_cons] at noFailure ⊢
      rcases exists_written_of_no_failure (failed_eq_nil_of_foldl noFailure) with
        ⟨-, rendered, files, isRendered, written⟩
      have later := inductionHypothesis noFailure
      rw [files_add_of_written isRendered written] at later
      exact (FileStore.continues_writePage written).trans later

end SiteRun

/-! ## The site -/

namespace Config

variable {c : Config} {tokenizer : Highlighter} {fs ready : FileStore} {inputDir : String}
  {report : SiteReport}

/-- Whether a run went well on every page: where its directories are, and how it ended. -/
structure WentWell (c : Config) (tokenizer : Highlighter) (fs ready : FileStore)
    (inputDir : String) (report : SiteReport) : Prop where
  checked : c.checkedInput fs = .ok inputDir
  made : fs.makeDirectories c.outputDir = .ok ready
  finished : (c.generateSite tokenizer fs).result = .ok report
  noFailure : report.failed = []

namespace WentWell

variable (well : c.WentWell tokenizer fs ready inputDir report)

include well

theorem report_eq : (c.siteRun tokenizer ready inputDir).report = report := by
  rcases exists_run_of_generateSite well.finished with ⟨_, _, checked, made, listed, -⟩
  cases Except.ok.inj (well.checked.symm.trans checked)
  cases Except.ok.inj (well.made.symm.trans made)
  exact listed

theorem no_failure_siteRun : (c.siteRun tokenizer ready inputDir).report.failed = [] := by
  rw [well.report_eq]
  exact well.noFailure

/-- The search index is written after the pages, if it is wanted. -/
theorem ended : (c.searchEnabled = false ∧
      (c.generateSite tokenizer fs).files = (c.siteRun tokenizer ready inputDir).files) ∨
    (c.searchEnabled = true ∧
      (c.siteRun tokenizer ready inputDir).files.writeText (searchIndexPath c.outputDir)
        (searchIndex (c.siteRun tokenizer ready inputDir).records) =
          .ok (c.generateSite tokenizer fs).files) := by
  rcases exists_run_of_generateSite well.finished with ⟨_, _, checked, made, -, ended⟩
  cases Except.ok.inj (well.checked.symm.trans checked)
  cases Except.ok.inj (well.made.symm.trans made)
  exact ended

theorem continues_siteRun : ready.Continues (c.siteRun tokenizer ready inputDir).files :=
  SiteRun.continues_foldl_add well.no_failure_siteRun

theorem siteRun_continues :
    (c.siteRun tokenizer ready inputDir).files.Continues (c.generateSite tokenizer fs).files := by
  rcases well.ended with ⟨-, same⟩ | ⟨-, written⟩
  · rw [same]
    exact FileStore.Continues.refl _
  · exact FileStore.continues_writeText written

theorem continues : ready.Continues (c.generateSite tokenizer fs).files :=
  well.continues_siteRun.trans well.siteRun_continues

theorem isDirectory : ready.isDirectory inputDir = true :=
  (FileStore.continues_makeDirectories well.made).isDirectory
    (isDirectory_of_checkedInput well.checked)

end WentWell

end Config

end Folio
