import Folio.Proofs.Files.FileStore
import Mathlib.Data.List.Basic
import Mathlib.Data.List.TakeWhile

namespace Folio

/-!
# Doing the same again

What a run does to a store can be done again.  The second time all directories are there, every path
leads where it led, and what is written stands at a place that is listed already; so no directory is
made, no place is added, and the store is in the end what it was in the beginning.  In between it is
neither what the first run left nor what it had at that time, but a mixture: at every place stands
what the first run had there when it had come as far, or what it left there in the end.
-/

namespace Table

variable {κ : Type*} {α : Type*} [DecidableEq κ]

theorem get?_eq_none_iff (d : Table κ α) {key : κ} : d.get? key = none ↔ key ∉ d.keys :=
  lookup_eq_none_iff_not_mem

private theorem filterMap_lookup_keys {l : List (κ × α)} (once : (l.map Prod.fst).Nodup) :
    (l.map Prod.fst).filterMap (fun k => (l.lookup k).map (Prod.mk k)) = l := by
  induction l with
  | nil => rfl
  | cons e rest inductionHypothesis =>
      rw [List.map_cons, List.nodup_cons] at once
      rw [List.map_cons, List.filterMap_cons_some (b := e) (by rw [List.lookup_cons_self]; rfl)]
      refine congrArg (e :: ·) ((List.filterMap_congr ?_).trans (inductionHypothesis once.2))
      intro k member
      have different : (k == e.1) = false := by
        rw [beq_eq_false_iff_ne]
        rintro rfl
        exact once.1 member
      rw [List.lookup_cons, different]

/-- A table lists its keys in order, each with what is found under it. -/
theorem entries_eq_filterMap (d : Table κ α) :
    d.entries = d.keys.filterMap fun k => (d.get? k).map (Prod.mk k) :=
  (filterMap_lookup_keys d.nodup).symm

/-- Tables with the same keys in the same order and the same values are the same table. -/
theorem eq_of_get?_eq {d d' : Table κ α} (sameKeys : d.keys = d'.keys)
    (agree : ∀ k, d.get? k = d'.get? k) : d = d' := by
  have sameEntries : d.entries = d'.entries := by
    rw [entries_eq_filterMap, entries_eq_filterMap, sameKeys]
    simp only [agree]
  cases d
  cases d'
  simpa using sameEntries

end Table

namespace FileStore

open PathName

variable {fs fs' fs'' : FileStore}

/-- A path of slashes only. -/
def slashes (n : Nat) : String := String.ofList (List.replicate n '/')

theorem pieces_slashes (n : Nat) : pieces (slashes n) = List.replicate (n + 1) "" := by
  induction n with
  | zero => rfl
  | succ n inductionHypothesis =>
      have divided : slashes (n + 1) = "" ++ "/" ++ slashes n := by
        apply String.ext
        simp [slashes, List.replicate_succ]
      rw [divided, pieces_append_slash, inductionHypothesis]
      rfl

/-- Slashes at the end of a path are empty pieces. -/
theorem pieces_append_slashes (front : String) (n : Nat) :
    pieces (front ++ slashes n) = pieces front ++ List.replicate n "" := by
  cases n with
  | zero =>
      have nothing : front ++ slashes 0 = front := by
        apply String.ext
        simp [slashes]
      rw [nothing, List.replicate_zero, List.append_nil]
  | succ n =>
      have divided : front ++ slashes (n + 1) = front ++ "/" ++ slashes n := by
        apply String.ext
        simp [slashes, List.replicate_succ]
      rw [divided, pieces_append_slash, pieces_slashes]

theorem exists_append_slashes (path : String) :
    ∃ front n, path = front ++ slashes n ∧
      withoutFinalSlashes path = if front = "" ∧ isAbsolute path = true then "/" else front := by
  have divided := List.takeWhile_append_dropWhile (p := (· == '/')) (l := path.toList.reverse)
  have allSlashes := List.eq_replicate_of_mem
    (l := path.toList.reverse.takeWhile (· == '/')) (a := '/') fun c member => by
      simpa using List.mem_takeWhile_imp member
  refine ⟨String.ofList (path.toList.reverse.dropWhile (· == '/')).reverse,
    (path.toList.reverse.takeWhile (· == '/')).length, ?_, ?_⟩
  · apply String.ext
    rw [String.toList_append, String.toList_ofList, slashes, String.toList_ofList]
    rw [← List.reverse_replicate, ← allSlashes, ← List.reverse_append, divided,
      List.reverse_reverse]
  · rw [withoutFinalSlashes]
    simp

/-- What making a directory looks up is the path itself, but for empty pieces at its end. -/
theorem withoutFinalSlashes_spec (path : String) :
    (∃ n, pieces path = pieces (withoutFinalSlashes path) ++ List.replicate n "") ∧
      isAbsolute (withoutFinalSlashes path) = isAbsolute path ∧
      (withoutFinalSlashes path).isEmpty = path.isEmpty := by
  rcases exists_append_slashes path with ⟨front, n, rfl, shown⟩
  rw [shown]
  by_cases nothing : front = ""
  · subst nothing
    cases n with
    | zero => exact ⟨⟨0, rfl⟩, rfl, rfl⟩
    | succ n =>
        have absolute : isAbsolute ("" ++ slashes (n + 1)) = true := by
          simp [isAbsolute, slashes, List.replicate_succ]
        rw [if_pos ⟨rfl, absolute⟩, absolute]
        refine ⟨⟨n, ?_⟩, rfl, ?_⟩
        · rw [pieces_append_slashes]
          rfl
        · simp [slashes, List.replicate_succ]
          rfl
  · rw [if_neg (fun both => nothing both.1)]
    refine ⟨⟨n, pieces_append_slashes front n⟩, (isAbsolute_append nothing _).symm, ?_⟩
    have something : ¬ front ++ slashes n = "" := by simp [nothing]
    rw [Bool.eq_iff_iff, String.isEmpty_iff, String.isEmpty_iff]
    exact ⟨fun empty => absurd empty nothing, fun empty => absurd empty something⟩

theorem foldlM_replicate_of_directory {loc : Location}
    (isDirectory : fs.entry? loc = some .directory) (n : Nat) :
    (List.replicate n "").foldlM fs.step loc = .ok loc := by
  induction n with
  | zero => rfl
  | succ n inductionHypothesis =>
      exact foldlM_cons_eq_ok_iff.mpr ⟨isDirectory, inductionHypothesis⟩

theorem eq_of_foldlM_replicate {loc next : Location} {n : Nat}
    (followed : (List.replicate n "").foldlM fs.step loc = .ok next) : next = loc := by
  induction n with
  | zero => exact (Except.ok.inj followed).symm
  | succ n inductionHypothesis =>
      exact inductionHypothesis (foldlM_cons_eq_ok_iff.mp followed).2

/-- A directory is found with and without slashes at the end of its path. -/
theorem locate_withoutFinalSlashes_iff {path : String} {loc : Location}
    (isDirectory : fs.entry? loc = some .directory) :
    fs.locate (withoutFinalSlashes path) = .ok loc ↔ fs.locate path = .ok loc := by
  rcases withoutFinalSlashes_spec path with ⟨⟨n, divided⟩, absolute, empty⟩
  rw [locate, locate, absolute, empty, divided]
  split
  · rfl
  · rw [List.foldlM_append]
    constructor
    · intro followed
      rw [followed]
      exact foldlM_replicate_of_directory isDirectory n
    · intro followed
      rcases exists_of_bind_eq_ok followed with ⟨between, inFront, later⟩
      rw [eq_of_foldlM_replicate later]
      exact inFront

theorem isDirectory_makeDirectory {path : String} (made : fs.makeDirectory path = .ok fs') :
    fs'.isDirectory path = true := by
  rcases exists_of_makeDirectory made with ⟨loc, located, free, rfl⟩
  have other : fs.entry? loc ≠ some .directory := by simp [free]
  have here : FileStore.entry? (fs.put loc .directory) loc = some .directory :=
    entry?_put_self (ne_nil_of_free other) .directory
  have later := (grows_put other .directory).locate located
  exact isDirectory_iff.mpr ⟨loc, (locate_withoutFinalSlashes_iff here).mp later, here⟩

/-- What has been made is a directory. -/
theorem isDirectory_makeDirectories {path : String} (nonempty : path ≠ "")
    (made : fs.makeDirectories path = .ok fs') : fs'.isDirectory path = true := by
  have shown : path.isEmpty = false := by simpa using nonempty
  rw [makeDirectories, makeDirectoriesTo, shown, if_neg Bool.false_ne_true] at made
  split at made
  · next here =>
      rw [← Except.ok.inj made]
      exact isDirectory_makeDirectory here
  · split at made
    · cases made
    · split at made
      · cases made
      · split at made
        · next here =>
            rw [← Except.ok.inj made]
            exact isDirectory_makeDirectory here
        · rcases eq_of_accepted made with ⟨rfl, here⟩
          exact here
  · rcases eq_of_accepted made with ⟨rfl, here⟩
    exact here

/-- A directory that is there is not made again. -/
theorem makeDirectories_of_isDirectory {path : String} (isDirectory : fs.isDirectory path = true) :
    fs.makeDirectories path = .ok fs := by
  rcases isDirectory_iff.mp isDirectory with ⟨loc, located, here⟩
  have shown : path.isEmpty = false := by
    rw [Bool.eq_false_iff]
    intro empty
    rw [locate, if_pos empty] at located
    cases located
  have refused : fs.makeDirectory path = .error .alreadyExists := by
    simp only [makeDirectory, (locate_withoutFinalSlashes_iff here).mpr located, here, bind,
      Except.bind]
  rw [makeDirectories, makeDirectoriesTo, shown, if_neg Bool.false_ne_true, refused]
  simp only [isDirectory, if_true]

/-! ## What comes after -/

/-- Whether a store may come after another in a run: the same places are locked, what was listed is
listed in front, and files stay files, with other contents perhaps. -/
structure Continues (fs fs' : FileStore) : Prop extends fs.Grows fs' where
  locked : fs'.locked = fs.locked
  keys : fs.entries.keys <+: fs'.entries.keys
  files : ∀ loc content, fs.entry? loc = some (.file content) →
    ∃ content', fs'.entry? loc = some (.file content')
  root : fs'.entries.get? [] = fs.entries.get? []

theorem Continues.refl (fs : FileStore) : fs.Continues fs where
  toGrows := Grows.refl fs
  locked := rfl
  keys := List.prefix_rfl
  files _ content isFile := ⟨content, isFile⟩
  root := rfl

theorem Continues.trans (first : fs.Continues fs') (second : fs'.Continues fs'') :
    fs.Continues fs'' where
  toGrows := first.toGrows.trans second.toGrows
  locked := second.locked.trans first.locked
  keys := first.keys.trans second.keys
  files loc content isFile := by
    rcases first.files loc content isFile with ⟨content', isFile'⟩
    exact second.files loc content' isFile'
  root := second.root.trans first.root

theorem continues_put {loc : Location} {entry : Entry} (free : fs.entry? loc ≠ some .directory)
    (stays : ∀ content, fs.entry? loc = some (.file content) → entry ≠ .directory) :
    fs.Continues (fs.put loc entry) where
  toGrows := grows_put free entry
  locked := rfl
  keys := by
    rw [put, Table.keys_insert]
    split
    · exact List.prefix_rfl
    · exact List.prefix_append _ _
  files other content isFile := by
    by_cases same : other = loc
    · subst same
      cases entry with
      | directory => exact absurd rfl (stays content isFile)
      | file content' => exact ⟨content', entry?_put_self (ne_nil_of_free free) _⟩
    · exact ⟨content, by rw [entry?_put_of_ne same]; exact isFile⟩
  root := get?_put_of_ne fs (ne_nil_of_free free).symm entry

theorem continues_writeText {path content : String}
    (written : fs.writeText path content = .ok fs') : fs.Continues fs' := by
  rcases exists_of_writeText written with ⟨loc, -, free, rfl⟩
  exact continues_put free fun _ _ => by simp

theorem continues_makeDirectories {path : String} (made : fs.makeDirectories path = .ok fs') :
    fs.Continues fs' := by
  refine related_of_makeDirectoriesTo Continues.refl Continues.trans ?_ made
  intro s s' path made
  rcases exists_of_makeDirectory made with ⟨loc, -, free, rfl⟩
  apply continues_put
  · simp [free]
  · intro content isFile
    rw [free] at isFile
    cases isFile

/-- How far a second run has come that does again what a first did.  The first run has come to
`first`, and ends in `last`, where the second starts; the second has come to `second`. -/
structure Replays (last first second : FileStore) : Prop where
  workingDirectory : second.workingDirectory = last.workingDirectory
  locked : second.locked = last.locked
  keys : second.entries.keys = last.entries.keys
  entries : ∀ loc, second.entry? loc = first.entry? loc ∨ second.entry? loc = last.entry? loc
  root : second.entries.get? [] = last.entries.get? []

namespace Replays

variable {last first first' second : FileStore}

/-- Before anything is done again, all is as the first run left it. -/
theorem start (last first : FileStore) : Replays last first last :=
  ⟨rfl, rfl, rfl, fun _ => Or.inr rfl, rfl⟩

theorem entry?_eq_none_iff (replays : Replays last first second) (loc : Location) :
    second.entry? loc = none ↔ last.entry? loc = none := by
  by_cases below : loc = []
  · subst below
    exact Iff.rfl
  · rw [entry?_of_ne_nil below, entry?_of_ne_nil below, Table.get?_eq_none_iff,
      Table.get?_eq_none_iff, replays.keys]

/-- The second run meets the directories that the first left. -/
theorem entry?_eq_directory_iff (replays : Replays last first second)
    (continues : first.Continues last) (loc : Location) :
    second.entry? loc = some .directory ↔ last.entry? loc = some .directory := by
  rcases replays.entries loc with same | same
  · constructor
    · intro isDirectory
      exact continues.directories loc (same ▸ isDirectory)
    · intro isDirectory
      cases here : second.entry? loc with
      | none =>
          rw [(replays.entry?_eq_none_iff loc).mp here] at isDirectory
          cases isDirectory
      | some entry =>
          cases entry with
          | directory => rfl
          | file content =>
              rcases continues.files loc content (same ▸ here) with ⟨content', isFile⟩
              rw [isFile] at isDirectory
              cases isDirectory
  · rw [same]

theorem grows (replays : Replays last first second) (continues : first.Continues last) :
    last.Grows second where
  workingDirectory := replays.workingDirectory
  directories loc := (replays.entry?_eq_directory_iff continues loc).mpr

/-- What has been written is written again. -/
theorem writeText (replays : Replays last first second) {path content : String}
    (written : first.writeText path content = .ok first') (continues : first'.Continues last) :
    ∃ second', second.writeText path content = .ok second' ∧ Replays last first' second' := by
  have earlier := (continues_writeText written).trans continues
  rcases writeText_eq_ok_iff.mp written with ⟨loc, located, free, unlocked, rfl⟩
  have below := ne_nil_of_free free
  rcases continues.files loc _ (entry?_put_self below _) with ⟨content', isFile⟩
  have again : second.locate path = .ok loc :=
    (replays.grows earlier).locate (earlier.locate located)
  have otherAgain : second.entry? loc ≠ some .directory := by
    rw [ne_eq, replays.entry?_eq_directory_iff earlier, isFile]
    simp
  have unlockedAgain : second.locked loc = false := by
    rw [replays.locked, earlier.locked]
    exact unlocked
  refine ⟨_, writeText_eq_ok_iff.mpr ⟨loc, again, otherAgain, unlockedAgain, rfl⟩, ?_⟩
  refine ⟨replays.workingDirectory, replays.locked, ?_, ?_, ?_⟩
  · -- The place is listed already.
    have listed : loc ∈ second.entries.keys := by
      rw [replays.keys]
      by_contra unlisted
      rw [← Table.get?_eq_none_iff, ← entry?_of_ne_nil below, isFile] at unlisted
      cases unlisted
    rw [put, Table.keys_insert, if_pos listed]
    exact replays.keys
  · intro other
    by_cases same : other = loc
    · subst same
      rw [entry?_put_self below, entry?_put_self below]
      exact Or.inl rfl
    · rw [entry?_put_of_ne same, entry?_put_of_ne same]
      exact replays.entries other
  · rw [get?_put_of_ne second below.symm]
    exact replays.root

/-- What has been made is there, and is not made again. -/
theorem makeDirectories (replays : Replays last first second) {path : String}
    (made : first.makeDirectories path = .ok first') (continues : first'.Continues last) :
    second.makeDirectories path = .ok second ∧ Replays last first' second := by
  have earlier := (continues_makeDirectories made).trans continues
  have adds := addsDirectories_makeDirectories made
  constructor
  · by_cases nothing : path = ""
    · subst nothing
      rfl
    · apply makeDirectories_of_isDirectory
      apply (replays.grows earlier).isDirectory
      exact continues.isDirectory (isDirectory_makeDirectories nothing made)
  · refine ⟨replays.workingDirectory, replays.locked, replays.keys, ?_, replays.root⟩
    intro loc
    rcases replays.entries loc with same | same
    · by_cases below : loc = []
      · subst below
        exact Or.inl rfl
      · cases here : first.entry? loc with
        | none =>
            rw [here] at same
            exact Or.inr (same.trans ((replays.entry?_eq_none_iff loc).mp same).symm)
        | some entry =>
            cases entry with
            | directory => exact Or.inl (same.trans (here.trans (adds.directories loc here).symm))
            | file content =>
                have isFile := here
                rw [entry?_of_ne_nil below] at isFile
                have stays := (adds.files loc content).mpr isFile
                rw [← entry?_of_ne_nil below] at stays
                exact Or.inl (same.trans (here.trans stays.symm))
    · exact Or.inr same

/-- When all has been done again, nothing has changed. -/
theorem eq (replays : Replays last last second) : second = last := by
  have sameEntries : second.entries = last.entries := by
    apply Table.eq_of_get?_eq replays.keys
    intro loc
    by_cases below : loc = []
    · subst below
      exact replays.root
    · rw [← entry?_of_ne_nil below, ← entry?_of_ne_nil below]
      exact (replays.entries loc).elim id id
  have sameDirectory := replays.workingDirectory
  have sameLocked := replays.locked
  cases second
  cases last
  simp_all

end Replays

end FileStore

end Folio
