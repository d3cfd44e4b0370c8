import Folio.Proofs.Site.PageOutput
import Mathlib.Data.List.Nodup

namespace Folio

open PathName

/-!
# What a run says of every page

The pages of a site take turns.  A page whose source cannot be read has failed before its turn; any
other is written at its turn, and fails if its directory, its markup or its metadata cannot be
written.  Either way the next page has its turn.  A run keeps three accounts: the pages that were
listed, the pages that failed, and the records for the search index.  They are all told by the turns
in the order in which the pages were collected: what a turn adds to one account it adds to no other,
and a page that fails adds no records.
-/

/-- The turn of a page: where its source is, what was made of it, and why it failed if it did. -/
structure PageTurn where
  path : String
  result : Except String (Noted RenderedPage)
  failure : Option String

namespace PageTurn

/-- The records of a page, which name the page that they are on. -/
def records (inputDir : String) (t : PageTurn) : List SiteRecord :=
  match t.result with
  | .error _ => []
  | .ok rendered => rendered.value.records.map (SiteRecord.mk (pageId (pageName inputDir t.path)))

end PageTurn

/-- The turns of pages that did not fail. -/
def wellTurns (turns : List PageTurn) : List PageTurn := turns.filter (·.failure.isNone)

/-- The pages that did not fail, as seen from the input directory. -/
def listedPages (inputDir : String) (turns : List PageTurn) : List String :=
  (wellTurns turns).map fun t => pageName inputDir t.path

/-- The pages that failed, each with the reason. -/
def failedPages (inputDir : String) (turns : List PageTurn) : List (String × String) :=
  turns.filterMap fun t => t.failure.map fun reason => (pageName inputDir t.path, reason)

/-- The records of the pages that did not fail. -/
def listedRecords (inputDir : String) (turns : List PageTurn) : List SiteRecord :=
  (wellTurns turns).flatMap (·.records inputDir)

theorem listedPages_append (inputDir : String) (turns later : List PageTurn) :
    listedPages inputDir (turns ++ later) =
      listedPages inputDir turns ++ listedPages inputDir later := by
  rw [listedPages, wellTurns, List.filter_append, List.map_append]
  rfl

theorem failedPages_append (inputDir : String) (turns later : List PageTurn) :
    failedPages inputDir (turns ++ later) =
      failedPages inputDir turns ++ failedPages inputDir later :=
  List.filterMap_append

theorem listedRecords_append (inputDir : String) (turns later : List PageTurn) :
    listedRecords inputDir (turns ++ later) =
      listedRecords inputDir turns ++ listedRecords inputDir later := by
  rw [listedRecords, wellTurns, List.filter_append, List.flatMap_append]
  rfl

/-- A page is either listed or has failed. -/
theorem listedPages_append_failedPages_perm (inputDir : String) (turns : List PageTurn) :
    (listedPages inputDir turns ++ (failedPages inputDir turns).map Prod.fst).Perm
      (turns.map fun t => pageName inputDir t.path) := by
  have failed : (failedPages inputDir turns).map Prod.fst =
      (turns.filter (!·.failure.isNone)).map fun t => pageName inputDir t.path := by
    rw [failedPages]
    induction turns with
    | nil => rfl
    | cons t turns inductionHypothesis =>
        cases reason : t.failure with
        | none => simp [reason, inductionHypothesis]
        | some reason => simp [reason, inductionHypothesis]
  rw [failed, listedPages, wellTurns, ← List.map_append]
  exact (List.filter_append_perm _ turns).map _

namespace SiteRun

variable (inputDir outputDir : String)

/-- Why the page of a result fails at its turn, if it does. -/
def failure? (run : SiteRun) (result : String × Except String (Noted RenderedPage)) :
    Option String :=
  match result.2 with
  | .error reason => some reason
  | .ok rendered =>
    (run.files.writePage outputDir (pageName inputDir result.1) rendered.value).2.map
      WriteError.message

def turn (run : SiteRun) (result : String × Except String (Noted RenderedPage)) : PageTurn :=
  ⟨result.1, result.2, run.failure? inputDir outputDir result⟩

/-- The turns of all pages, each with the files that those before it have left. -/
def turns : SiteRun → List (String × Except String (Noted RenderedPage)) → List PageTurn
  | _, [] => []
  | run, result :: results =>
    run.turn inputDir outputDir result :: turns (run.add inputDir outputDir result) results

theorem map_turns (run : SiteRun) (results : List (String × Except String (Noted RenderedPage))) :
    (run.turns inputDir outputDir results).map (fun t => (t.path, t.result)) = results := by
  induction results generalizing run with
  | nil => rfl
  | cons result results inductionHypothesis =>
      rw [turns, List.map_cons, inductionHypothesis]
      rfl

/-- What one turn adds to the accounts. -/
theorem accounts_add (run : SiteRun) (result : String × Except String (Noted RenderedPage)) :
    (run.add inputDir outputDir result).report.pages =
        run.report.pages ++ listedPages inputDir [run.turn inputDir outputDir result] ∧
      (run.add inputDir outputDir result).report.failed =
        run.report.failed ++ failedPages inputDir [run.turn inputDir outputDir result] ∧
      (run.add inputDir outputDir result).records =
        run.records ++ listedRecords inputDir [run.turn inputDir outputDir result] := by
  rcases result with ⟨path, result⟩
  cases result with
  | error reason =>
      simp [add, fail, turn, failure?, listedPages, failedPages, listedRecords, wellTurns, pageName]
  | ok rendered =>
      rw [add]
      dsimp only
      rw [← pageName]
      cases written : run.files.writePage outputDir (pageName inputDir path) rendered.value with
      | mk files failure =>
          cases failure with
          | none =>
              simp [turn, failure?, written, listedPages, failedPages, listedRecords, wellTurns,
                PageTurn.records]
          | some e =>
              simp [fail, turn, failure?, written, listedPages, failedPages, listedRecords,
                wellTurns]

/-- What a run adds to the accounts. -/
theorem accounts_foldl_add (run : SiteRun)
    (results : List (String × Except String (Noted RenderedPage))) :
    (results.foldl (add inputDir outputDir) run).report.pages =
        run.report.pages ++ listedPages inputDir (run.turns inputDir outputDir results) ∧
      (results.foldl (add inputDir outputDir) run).report.failed =
        run.report.failed ++ failedPages inputDir (run.turns inputDir outputDir results) ∧
      (results.foldl (add inputDir outputDir) run).records =
        run.records ++ listedRecords inputDir (run.turns inputDir outputDir results) := by
  induction results generalizing run with
  | nil => simp [turns, listedPages, failedPages, listedRecords, wellTurns]
  | cons result results inductionHypothesis =>
      rcases accounts_add inputDir outputDir run result with
        ⟨pages, failed, records⟩
      rcases inductionHypothesis (run.add inputDir outputDir result) with
        ⟨laterPages, laterFailed, laterRecords⟩
      rw [List.foldl_cons, turns, ← List.singleton_append, listedPages_append,
        failedPages_append, listedRecords_append]
      refine ⟨?_, ?_, ?_⟩
      · rw [laterPages, pages, List.append_assoc]
      · rw [laterFailed, failed, List.append_assoc]
      · rw [laterRecords, records, List.append_assoc]

end SiteRun

namespace Config

variable {c : Config}

/-- The turns of the pages of a site. -/
def pageTurns (c : Config) (tokenizer : Highlighter) (ready : FileStore) (inputDir : String) :
    List PageTurn :=
  SiteRun.turns inputDir c.outputDir { files := ready } (c.renderedPages tokenizer ready inputDir)

theorem map_path_pageTurns (c : Config) (tokenizer : Highlighter) (ready : FileStore)
    (inputDir : String) :
    (c.pageTurns tokenizer ready inputDir).map PageTurn.path = ready.pagesBelow inputDir := by
  rw [← map_fst_renderedPages c tokenizer, ← SiteRun.map_turns inputDir c.outputDir
    { files := ready } (c.renderedPages tokenizer ready inputDir), List.map_map]
  rfl

/-- The accounts of a run are told by the turns of its pages. -/
theorem accounts_siteRun (c : Config) (tokenizer : Highlighter) (ready : FileStore)
    (inputDir : String) :
    (c.siteRun tokenizer ready inputDir).report.pages =
        listedPages inputDir (c.pageTurns tokenizer ready inputDir) ∧
      (c.siteRun tokenizer ready inputDir).report.failed =
        failedPages inputDir (c.pageTurns tokenizer ready inputDir) ∧
      (c.siteRun tokenizer ready inputDir).records =
        listedRecords inputDir (c.pageTurns tokenizer ready inputDir) :=
  SiteRun.accounts_foldl_add inputDir c.outputDir { files := ready }
    (c.renderedPages tokenizer ready inputDir)

end Config

namespace FileStore

variable {ready : FileStore} {inputDir : String}

/-- A page is found again by its name. -/
theorem eq_foldl_join_of_mem_pagesBelow (wellNamed : ready.WellNamed)
    (isDirectory : ready.isDirectory inputDir = true) {path : String}
    (member : path ∈ ready.pagesBelow inputDir) :
    relativeTo? inputDir path = some (pageName inputDir path) ∧
      path = (pieces (pageName inputDir path)).foldl join inputDir := by
  have isFile := (List.mem_filter.mp (List.mem_mergeSort.mp member)).1
  rcases exists_names_of_mem_filesBelow wellNamed isDirectory isFile with
    ⟨names, nonempty, isNames, rfl⟩
  have seen := relativeTo?_foldl_join inputDir isNames
  rw [pageName, seen, Option.getD_some, pieces_of_names nonempty isNames]
  exact ⟨rfl, rfl⟩

/-- No two pages have one name. -/
theorem nodup_map_pageName (wellNamed : ready.WellNamed)
    (isDirectory : ready.isDirectory inputDir = true) :
    ((ready.pagesBelow inputDir).map (pageName inputDir)).Nodup := by
  refine List.Nodup.map_on ?_ (nodup_pagesBelow wellNamed inputDir)
  intro first isFirst second isSecond same
  rw [(eq_foldl_join_of_mem_pagesBelow wellNamed isDirectory isFirst).2, same,
    ← (eq_foldl_join_of_mem_pagesBelow wellNamed isDirectory isSecond).2]

end FileStore

/-! ## The report of a site -/

/-- Whether a report accounts for pages, of which the turns are given in the order in which the
pages were collected. -/
structure SiteReport.AccountsFor (report : SiteReport) (inputDir : String)
    (turns : List PageTurn) : Prop where
  /-- Pages are named as seen from the input directory. -/
  names : ∀ t ∈ turns, relativeTo? inputDir t.path = some (pageName inputDir t.path)
  /-- Every page is in the report once, among the listed pages or among those that failed. -/
  once : (report.pages ++ report.failed.map Prod.fst).Perm
    (turns.map fun t => pageName inputDir t.path)
  distinct : (report.pages ++ report.failed.map Prod.fst).Nodup
  /-- The listed pages are those whose turn went well, in the order of the turns. -/
  pages : report.pages = listedPages inputDir turns
  /-- The other pages are given with their reasons, in the order of the turns. -/
  failed : report.failed = failedPages inputDir turns

namespace Config

/-- The report of a finished run accounts for all pages that were collected, and the search index,
if it is wanted, holds the records of the listed pages, page after page, and no others. -/
theorem generateSite_accounts_for_pages {c : Config} {tokenizer : Highlighter} {fs : FileStore}
    {report : SiteReport} (wellNamed : fs.WellNamed)
    (finished : (c.generateSite tokenizer fs).result = .ok report) :
    ∃ inputDir ready, c.checkedInput fs = .ok inputDir ∧
      fs.makeDirectories c.outputDir = .ok ready ∧
      (c.pageTurns tokenizer ready inputDir).map PageTurn.path = ready.pagesBelow inputDir ∧
      (c.pageTurns tokenizer ready inputDir).map (fun t => (t.path, t.result)) =
        c.renderedPages tokenizer ready inputDir ∧
      report.AccountsFor inputDir (c.pageTurns tokenizer ready inputDir) ∧
      (c.searchEnabled = true →
        (c.generateSite tokenizer fs).files.readText (searchIndexPath c.outputDir) =
          .ok (searchIndex (listedRecords inputDir (c.pageTurns tokenizer ready inputDir)))) := by
  rcases exists_run_of_generateSite finished with ⟨inputDir, ready, checked, made, rfl, ended⟩
  have adds := FileStore.addsDirectories_makeDirectories made
  have wellNamedReady := adds.wellNamed wellNamed
  have isDirectory := adds.isDirectory (isDirectory_of_checkedInput checked)
  rcases c.accounts_siteRun tokenizer ready inputDir with ⟨pages, failed, records⟩
  have collected := c.map_path_pageTurns tokenizer ready inputDir
  have names : (c.pageTurns tokenizer ready inputDir).map (fun t => pageName inputDir t.path) =
      (ready.pagesBelow inputDir).map (pageName inputDir) := by
    rw [← collected, List.map_map]
    rfl
  have once := listedPages_append_failedPages_perm inputDir (c.pageTurns tokenizer ready inputDir)
  rw [← pages, ← failed] at once
  refine ⟨inputDir, ready, checked, made, collected, SiteRun.map_turns _ _ _ _, ?_, ?_⟩
  · refine ⟨?_, once, ?_, pages, failed⟩
    · intro t member
      have isPage : t.path ∈ ready.pagesBelow inputDir := collected ▸ List.mem_map_of_mem member
      exact (FileStore.eq_foldl_join_of_mem_pagesBelow wellNamedReady isDirectory isPage).1
    · rw [once.nodup_iff, names]
      exact FileStore.nodup_map_pageName wellNamedReady isDirectory
  · intro enabled
    rcases ended with ⟨disabled, -⟩ | ⟨-, written⟩
    · rw [enabled] at disabled
      cases disabled
    · rw [← records]
      exact FileStore.readText_writeText_self written

/-- A site with a page that goes well, one that is no text, one whose metadata has a directory in
its place, one whose place is locked, and one whose directory has a file in its place. -/
def failingPages : FileStore where
  entries := Table.ofList
    [(["in"], .directory), (["in", "a.html"], .file (some "<p id=a>A")),
      (["in", "b.html"], .file none), (["in", "c.html"], .file (some "<p id=c>C")),
      (["in", "d.html"], .file (some "<p id=d>D")), (["in", "sub"], .directory),
      (["in", "sub", "e.html"], .file (some "<p id=e>E")), (["out"], .directory),
      (["out", "c.json"], .directory), (["out", "sub"], .file (some ""))]
  locked := fun loc => loc == ["out", "d.html"]

def failingReport : SiteReport where
  pages := ["a.html"]
  failed :=
    [("b.html", "Failed to read file: stream did not contain valid UTF-8"),
      ("c.html", "Failed to write page metadata: out/c.json: Is a directory (os error 21)"),
      ("d.html", "Failed to write page: out/d.html: Permission denied (os error 13)"),
      ("sub/e.html", "Failed to create directory: out/sub: File exists (os error 17)")]

/-- All five pages are accounted for. -/
theorem generateSite_accounts_for_failingPages :
    failingPages.WellNamed ∧
      (inToOut.generateSite .plain failingPages).result = .ok failingReport ∧
      (inToOut.pageTurns .plain failingPages "in").map PageTurn.path =
        ["in/a.html", "in/b.html", "in/c.html", "in/d.html", "in/sub/e.html"] ∧
      failingReport.AccountsFor "in" (inToOut.pageTurns .plain failingPages "in") ∧
      (inToOut.generateSite .plain failingPages).files.readText "out/search-fragments.json" =
        .ok (searchIndex (listedRecords "in" (inToOut.pageTurns .plain failingPages "in"))) := by
  have wellNamed : failingPages.WellNamed := by decide +kernel
  have checked : inToOut.checkedInput failingPages = .ok "in" := rfl
  have made : failingPages.makeDirectories inToOut.outputDir = .ok failingPages := rfl
  have pages : failingPages.pagesBelow "in" =
      ["in/a.html", "in/b.html", "in/c.html", "in/d.html", "in/sub/e.html"] :=
    FileStore.pagesBelow_of_sorted (by decide +kernel) (by decide +kernel)
  have finished : (inToOut.generateSite .plain failingPages).result = .ok failingReport := by
    rw [generateSite_of_pages .plain checked made pages]
    decide +kernel
  rcases generateSite_accounts_for_pages wellNamed finished with
    ⟨inputDir, ready, checked', made', collected, -, accounted, index⟩
  cases Except.ok.inj (checked.symm.trans checked')
  cases Except.ok.inj (made.symm.trans made')
  exact ⟨wellNamed, finished, collected.trans pages, accounted, index rfl⟩

end Config

end Folio
