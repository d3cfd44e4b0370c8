import Folio.Proofs.Site.WholeRun

namespace Folio

open PathName

/-!
# Output that stands apart

All that a run writes stands at or below the place of its output directory, since pages are named as
seen from the input directory and such a name leads down only.  If the input directory and the
output directory stand apart, neither of them inside the other, then no file below the input
directory comes, goes or changes.
-/

namespace FileStore

variable {fs fs' fs'' : FileStore}

/-- Whether the files at a place and below it are the same in two stores. -/
def SameBelow (dir : Location) (fs fs' : FileStore) : Prop :=
  ∀ loc content, dir <+: loc →
    (fs'.entries.get? loc = some (.file content) ↔ fs.entries.get? loc = some (.file content))

theorem SameBelow.refl (dir : Location) (fs : FileStore) : SameBelow dir fs fs :=
  fun _ _ _ => Iff.rfl

theorem SameBelow.trans {dir : Location} (first : SameBelow dir fs fs')
    (second : SameBelow dir fs' fs'') : SameBelow dir fs fs'' :=
  fun loc content below => (second loc content below).trans (first loc content below)

theorem AddsDirectories.sameBelow (adds : fs.AddsDirectories fs') (dir : Location) :
    SameBelow dir fs fs' :=
  fun loc content _ => adds.files loc content

theorem sameBelow_put {dir loc : Location} (outside : ¬ dir <+: loc) (entry : Entry) :
    SameBelow dir fs (fs.put loc entry) := by
  intro other content below
  have different : other ≠ loc := by
    rintro rfl
    exact outside below
  rw [get?_put_of_ne fs different]

/-- What is read below a place is read as before if the files there are the same. -/
theorem SameBelow.readText {dir loc : Location} (same : SameBelow dir fs fs')
    (grows : fs.Grows fs') {path content : String} (located : fs.locate path = .ok loc)
    (below : dir <+: loc) (isRead : fs.readText path = .ok content) :
    fs'.readText path = .ok content := by
  rcases readText_eq_ok_iff.mp isRead with ⟨loc', located', isText⟩
  cases Except.ok.inj (located.symm.trans located')
  have proper : loc ≠ [] := by
    apply ne_nil_of_free
    rw [isText]
    simp
  rw [entry?_of_ne_nil proper] at isText
  refine readText_eq_ok_iff.mpr ⟨loc, grows.locate located, ?_⟩
  rw [entry?_of_ne_nil proper]
  exact (same loc _ below).mpr isText

/-- A plain path that is joined to a directory leads below it. -/
theorem prefix_of_locate_join {directory path : String} {base loc : Location}
    (plain : IsPlain path) (atDirectory : fs.locate directory = .ok base)
    (located : fs.locate (join directory path) = .ok loc) : base <+: loc := by
  rw [locate_join _ _ plain, List.foldlM_append] at located
  rcases exists_of_bind_eq_ok located with ⟨between, atJoint, later⟩
  rw [eq_append_of_foldlM plain later]
  have same : between = base := by
    rcases join_cases directory with ⟨rfl, -, -⟩ | ⟨nonempty, -, cut, -⟩
    · cases atDirectory
    · have shown : directory.isEmpty = false := by simpa using nonempty
      rw [locate, shown, if_neg Bool.false_ne_true] at atDirectory
      rcases cut with cut | cut
      · rw [cut, atJoint] at atDirectory
        exact Except.ok.inj atDirectory
      · rw [cut, List.foldlM_append, atJoint] at atDirectory
        exact (eq_of_foldlM_replicate (n := 1) atDirectory).symm
  rw [same]
  exact List.prefix_append base _

section Apart

variable {dir base : Location} {outputDir : String}
  (outside : ¬ dir <+: base) (apart : ¬ base <+: dir)

include outside apart

/-- What is written below one of two places that stand apart changes nothing below the other. -/
theorem sameBelow_writeText_join {path content : String} (plain : IsPlain path)
    (atOutput : fs.locate outputDir = .ok base)
    (written : fs.writeText (join outputDir path) content = .ok fs') : SameBelow dir fs fs' := by
  rcases exists_of_writeText written with ⟨loc, located, -, rfl⟩
  apply sameBelow_put
  intro below
  have inOutput := prefix_of_locate_join plain atOutput located
  exact (List.prefix_or_prefix_of_prefix below inOutput).elim outside apart

theorem sameBelow_writePage {page : String} {rendered : RenderedPage} {known : FileStore}
    (plain : IsPlain page) (atOutput : fs.locate outputDir = .ok base)
    (written : fs.writePage outputDir page rendered = (known, none)) :
    SameBelow dir fs known := by
  rcases writePage_eq_whole_iff.mp written with ⟨made, shown, ready, markup, metadata⟩
  rw [outputPath_eq outputDir plain] at markup
  rw [metadataPath_eq outputDir plain] at metadata
  have adds := addsDirectories_withParent ready
  have atMade := adds.locate atOutput
  have atShown := (grows_writeText markup).locate atMade
  exact (adds.sameBelow dir).trans
    ((sameBelow_writeText_join outside apart (plain.withExtension isExtension_html) atMade
      markup).trans
    (sameBelow_writeText_join outside apart (plain.withExtension isExtension_json) atShown
      metadata))

end Apart

end FileStore

namespace SiteRun

/-- Writing pages changes nothing below a place that stands apart from the output directory. -/
theorem sameBelow_foldl_add {inputDir outputDir : String} {dir base : Location}
    (outside : ¬ dir <+: base) (apart : ¬ base <+: dir) {run : SiteRun}
    {results : List (String × Except String (Noted RenderedPage))}
    (plain : ∀ result ∈ results, IsPlain (pageName inputDir result.1))
    (atOutput : run.files.locate outputDir = .ok base)
    (noFailure : (results.foldl (add inputDir outputDir) run).report.failed = []) :
    FileStore.SameBelow dir run.files (results.foldl (add inputDir outputDir) run).files := by
  induction results generalizing run with
  | nil => exact FileStore.SameBelow.refl dir run.files
  | cons result results inductionHypothesis =>
      rw [List.foldl_cons] at noFailure ⊢
      rcases exists_written_of_no_failure (failed_eq_nil_of_foldl noFailure) with
        ⟨-, rendered, files, isRendered, written⟩
      have here := files_add_of_written isRendered written
      have first := FileStore.sameBelow_writePage outside apart (plain result List.mem_cons_self)
        atOutput written
      rw [← here] at first
      refine first.trans (inductionHypothesis ?_ ?_ noFailure)
      · exact fun later member => plain later (List.mem_cons_of_mem result member)
      · rw [here]
        exact (FileStore.continues_writePage written).locate atOutput

end SiteRun

/-! ## Pages that stay -/

namespace Config.WentWell

variable {c : Config} {tokenizer : Highlighter} {fs ready : FileStore} {inputDir : String}
  {report : SiteReport} {dir base : Location}

theorem sameBelow (well : c.WentWell tokenizer fs ready inputDir report) (wellNamed : fs.WellNamed)
    (atOutput : ready.locate c.outputDir = .ok base) (outside : ¬ dir <+: base)
    (apart : ¬ base <+: dir) :
    FileStore.SameBelow dir ready (c.generateSite tokenizer fs).files := by
  have wellNamedReady := (FileStore.addsDirectories_makeDirectories well.made).wellNamed wellNamed
  have pages : FileStore.SameBelow dir ready (c.siteRun tokenizer ready inputDir).files :=
    SiteRun.sameBelow_foldl_add outside apart
      (fun _ member => (relativeTo?_of_mem_renderedPages wellNamedReady well.isDirectory member).2)
      atOutput well.no_failure_siteRun
  rcases well.ended with ⟨-, same⟩ | ⟨-, written⟩
  · rw [same]
    exact pages
  · exact pages.trans (FileStore.sameBelow_writeText_join outside apart isPlain_searchIndex
      (well.continues_siteRun.locate atOutput) written)

end Config.WentWell

end Folio
