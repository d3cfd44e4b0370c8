import Folio.Files.FileStore
import Folio.Proofs.Files.PathName

namespace Folio
namespace FileStore

open PathName

/-!
# What a change of the store leaves alone

The changes of a store never take a directory away.  A path that leads somewhere therefore leads
there ever after, and what is written at its end stays until something is written at the same place.
Plain paths that are joined to one directory lead to different places if they differ at all, however
much the store has grown in between.
-/

variable {fs fs' fs'' : FileStore}

/-- What goes well in two steps goes well in each. -/
theorem exists_of_bind_eq_ok {ε α β : Type} {x : Except ε α} {f : α → Except ε β} {b : β}
    (wentWell : x >>= f = .ok b) : ∃ a, x = .ok a ∧ f a = .ok b := by
  cases x with
  | error e => cases wentWell
  | ok a => exact ⟨a, rfl, wentWell⟩

/-- Whether a store may come after another: relative paths start from the same place, and
directories stay. -/
structure Grows (fs fs' : FileStore) : Prop where
  workingDirectory : fs'.workingDirectory = fs.workingDirectory
  directories : ∀ loc, fs.entry? loc = some .directory → fs'.entry? loc = some .directory

theorem Grows.refl (fs : FileStore) : fs.Grows fs := ⟨rfl, fun _ => id⟩

theorem Grows.trans (first : fs.Grows fs') (second : fs'.Grows fs'') : fs.Grows fs'' where
  workingDirectory := second.workingDirectory.trans first.workingDirectory
  directories loc isDirectory := second.directories loc (first.directories loc isDirectory)

theorem get?_put_self (fs : FileStore) (loc : Location) (entry : Entry) :
    (fs.put loc entry).entries.get? loc = some entry :=
  Table.get?_insert_self fs.entries loc entry

theorem get?_put_of_ne (fs : FileStore) {loc other : Location} (different : other ≠ loc)
    (entry : Entry) : (fs.put loc entry).entries.get? other = fs.entries.get? other :=
  Table.get?_insert_of_ne fs.entries entry different

theorem entry?_of_ne_nil {loc : Location} (below : loc ≠ []) :
    fs.entry? loc = fs.entries.get? loc :=
  if_neg below

theorem entry?_put_self {loc : Location} (below : loc ≠ []) (entry : Entry) :
    FileStore.entry? (fs.put loc entry) loc = some entry := by
  rw [entry?_of_ne_nil below, get?_put_self]

theorem entry?_put_of_ne {loc other : Location} (different : other ≠ loc) (entry : Entry) :
    FileStore.entry? (fs.put loc entry) other = fs.entry? other := by
  unfold FileStore.entry?
  rw [get?_put_of_ne fs different]

/-- The root is a directory. -/
theorem ne_nil_of_free {loc : Location} (other : fs.entry? loc ≠ some .directory) : loc ≠ [] := by
  rintro rfl
  exact other rfl

/-- What is put where no directory stands takes no directory away. -/
theorem grows_put {loc : Location} (free : fs.entry? loc ≠ some .directory) (entry : Entry) :
    fs.Grows (fs.put loc entry) where
  workingDirectory := rfl
  directories other isDirectory := by
    have different : other ≠ loc := by
      rintro rfl
      exact free isDirectory
    rw [entry?_put_of_ne different]
    exact isDirectory

/-- Where a step leads that can be made. -/
def stepped (loc : Location) (piece : String) : Location :=
  if isIdle piece then loc else if piece = ".." then loc.dropLast else loc ++ [piece]

/-- A step can be made from directories only. -/
theorem step_eq_ok_iff {loc next : Location} {piece : String} :
    fs.step loc piece = .ok next ↔ fs.entry? loc = some .directory ∧ next = stepped loc piece := by
  rw [step, stepped]
  cases fs.entry? loc with
  | none => simp
  | some entry =>
      cases entry with
      | file content => simp
      | directory =>
          simp only [true_and]
          split
          · simp [eq_comm]
          · split <;> simp [eq_comm]

theorem IsName.stepped {name : String} (isName : IsName name) (loc : Location) :
    FileStore.stepped loc name = loc ++ [name] := by
  rw [FileStore.stepped, isName.isIdle, if_neg isName.notUp]
  rfl

theorem foldlM_cons_eq_ok_iff {loc next : Location} {piece : String} {pieces : List String} :
    (piece :: pieces).foldlM fs.step loc = .ok next ↔
      fs.entry? loc = some .directory ∧
        pieces.foldlM fs.step (stepped loc piece) = .ok next := by
  rw [List.foldlM_cons]
  constructor
  · intro followed
    rcases exists_of_bind_eq_ok followed with ⟨between, stepResult, later⟩
    rcases step_eq_ok_iff.mp stepResult with ⟨isDirectory, rfl⟩
    exact ⟨isDirectory, later⟩
  · rintro ⟨isDirectory, followed⟩
    rw [step_eq_ok_iff.mpr ⟨isDirectory, rfl⟩]
    exact followed

theorem Grows.foldlM (grows : fs.Grows fs') {pieces : List String} {loc next : Location}
    (followed : pieces.foldlM fs.step loc = .ok next) : pieces.foldlM fs'.step loc = .ok next := by
  induction pieces generalizing loc with
  | nil => exact followed
  | cons piece pieces inductionHypothesis =>
      rcases foldlM_cons_eq_ok_iff.mp followed with ⟨isDirectory, later⟩
      exact foldlM_cons_eq_ok_iff.mpr ⟨grows.directories loc isDirectory, inductionHypothesis later⟩

/-- A path that leads somewhere leads there ever after. -/
theorem Grows.locate (grows : fs.Grows fs') {path : String} {loc : Location}
    (located : fs.locate path = .ok loc) : fs'.locate path = .ok loc := by
  rw [FileStore.locate] at located ⊢
  split at located
  · cases located
  · next shown =>
      rw [if_neg shown, grows.workingDirectory]
      exact grows.foldlM located

/-- Names lead down. -/
theorem eq_append_of_foldlM {names : List String} (isNames : ∀ n ∈ names, IsName n)
    {loc next : Location} (followed : names.foldlM fs.step loc = .ok next) :
    next = loc ++ names := by
  induction names generalizing loc with
  | nil =>
      rw [List.append_nil]
      exact (Except.ok.inj followed).symm
  | cons n names inductionHypothesis =>
      rcases foldlM_cons_eq_ok_iff.mp followed with ⟨-, later⟩
      rw [IsName.stepped (isNames n List.mem_cons_self)] at later
      have below := inductionHypothesis (fun m member => isNames m (List.mem_cons_of_mem n member))
        later
      rw [below, List.append_assoc]
      rfl

/-- A plain path goes on from where the path of the directory leads. -/
theorem locate_join (fs : FileStore) (directory : String) {path : String} (plain : IsPlain path) :
    fs.locate (join directory path) =
      (joint directory ++ pieces path).foldlM fs.step
        (if isAbsolute directory then [] else fs.workingDirectory) := by
  -- An empty path leads nowhere, but a joined one ends in a name.
  have shown : (join directory path).isEmpty = false := by
    rw [Bool.eq_false_iff]
    intro empty
    have nothing : pieces (join directory path) = [""] := by
      rw [String.isEmpty_iff.mp empty]
      rfl
    rw [pieces_join directory plain.isAbsolute] at nothing
    rcases exists_pieces_concat path with ⟨before, name, divided⟩
    have last := congrArg List.getLast? nothing
    rw [divided, ← List.append_assoc, List.getLast?_concat] at last
    exact (plain.isName_last divided).nonempty (Option.some.inj last)
  have absolute := isAbsolute_join directory plain.isAbsolute
  rw [locate, shown, if_neg Bool.false_ne_true, absolute, pieces_join directory plain.isAbsolute]

/-- Different plain paths joined to one directory lead to different places, whatever has been made
between one and the other. -/
theorem Grows.eq_of_locate_join (grows : fs.Grows fs') {directory path other : String}
    (plain : IsPlain path) (plainOther : IsPlain other) {loc : Location}
    (located : fs.locate (join directory path) = .ok loc)
    (locatedOther : fs'.locate (join directory other) = .ok loc) : path = other := by
  have later := grows.locate located
  rw [locate_join _ _ plain, List.foldlM_append] at later
  rw [locate_join _ _ plainOther, List.foldlM_append] at locatedOther
  rcases exists_of_bind_eq_ok later with ⟨base, atDirectory, later⟩
  rw [atDirectory] at locatedOther
  have here := eq_append_of_foldlM plain later
  rw [eq_append_of_foldlM plainOther locatedOther] at here
  exact eq_of_pieces_eq (List.append_cancel_left here).symm

/-! ## Reading and writing -/

theorem readText_eq_ok_iff {path content : String} :
    fs.readText path = .ok content ↔
      ∃ loc, fs.locate path = .ok loc ∧ fs.entry? loc = some (.file (some content)) := by
  constructor
  · intro isRead
    rcases exists_of_bind_eq_ok isRead with ⟨loc, located, shown⟩
    refine ⟨loc, located, ?_⟩
    split at shown
    · cases shown
    · cases shown
    · cases shown
    · next isText => rw [isText, Except.ok.inj shown]
  · rintro ⟨loc, located, shown⟩
    simp only [readText, located, bind, Except.bind, shown]

theorem writeText_eq_ok_iff {path content : String} :
    fs.writeText path content = .ok fs' ↔
      ∃ loc, fs.locate path = .ok loc ∧ fs.entry? loc ≠ some .directory ∧ fs.locked loc = false ∧
        fs' = fs.put loc (.file (some content)) := by
  constructor
  · intro written
    rcases exists_of_bind_eq_ok written with ⟨loc, located, changed⟩
    split at changed
    · cases changed
    · next free =>
        split at changed
        · cases changed
        · next unlocked =>
            exact ⟨loc, located, free, Bool.eq_false_iff.mpr unlocked,
              (Except.ok.inj changed).symm⟩
  · rintro ⟨loc, located, free, unlocked, rfl⟩
    simp only [writeText, located, bind, Except.bind, unlocked]
    split
    · contradiction
    · rfl

theorem exists_of_writeText {path content : String}
    (written : fs.writeText path content = .ok fs') :
    ∃ loc, fs.locate path = .ok loc ∧ fs.entry? loc ≠ some .directory ∧
      fs' = fs.put loc (.file (some content)) := by
  rcases writeText_eq_ok_iff.mp written with ⟨loc, located, free, -, same⟩
  exact ⟨loc, located, free, same⟩

theorem grows_writeText {path content : String} (written : fs.writeText path content = .ok fs') :
    fs.Grows fs' := by
  rcases exists_of_writeText written with ⟨loc, -, free, rfl⟩
  exact grows_put free _

/-- What is written is read. -/
theorem readText_writeText_self {path content : String}
    (written : fs.writeText path content = .ok fs') : fs'.readText path = .ok content := by
  have grows := grows_writeText written
  rcases exists_of_writeText written with ⟨loc, located, free, rfl⟩
  apply readText_eq_ok_iff.mpr
  exact ⟨loc, grows.locate located, entry?_put_self (ne_nil_of_free free) _⟩

/-- Writing a file leaves the other files of a directory, and of those below it, as they are. -/
theorem readText_writeText_join_of_ne {directory path other content written : String}
    (plain : IsPlain path) (plainOther : IsPlain other) (different : path ≠ other)
    (change : fs.writeText (join directory other) written = .ok fs')
    (isRead : fs.readText (join directory path) = .ok content) :
    fs'.readText (join directory path) = .ok content := by
  have grows := grows_writeText change
  rcases exists_of_writeText change with ⟨locOther, locatedOther, free, rfl⟩
  rcases readText_eq_ok_iff.mp isRead with ⟨loc, located, shown⟩
  apply readText_eq_ok_iff.mpr
  refine ⟨loc, grows.locate located, ?_⟩
  rw [entry?_put_of_ne]
  · exact shown
  · rintro rfl
    exact different ((Grows.refl fs).eq_of_locate_join plain plainOther located locatedOther)

/-- Whether a store has more directories than another, and the same files. -/
structure AddsDirectories (fs fs' : FileStore) : Prop extends fs.Grows fs' where
  files : ∀ loc content,
    fs'.entries.get? loc = some (.file content) ↔ fs.entries.get? loc = some (.file content)

theorem AddsDirectories.refl (fs : FileStore) : fs.AddsDirectories fs where
  toGrows := Grows.refl fs
  files _ _ := Iff.rfl

theorem AddsDirectories.trans (first : fs.AddsDirectories fs')
    (second : fs'.AddsDirectories fs'') : fs.AddsDirectories fs'' where
  toGrows := first.toGrows.trans second.toGrows
  files loc content := (second.files loc content).trans (first.files loc content)

theorem AddsDirectories.readText (adds : fs.AddsDirectories fs') {path content : String}
    (isRead : fs.readText path = .ok content) : fs'.readText path = .ok content := by
  rcases readText_eq_ok_iff.mp isRead with ⟨loc, located, shown⟩
  have below : loc ≠ [] := by
    apply ne_nil_of_free
    rw [shown]
    simp
  rw [entry?_of_ne_nil below] at shown
  apply readText_eq_ok_iff.mpr
  refine ⟨loc, adds.locate located, ?_⟩
  rw [entry?_of_ne_nil below]
  exact (adds.files loc _).mpr shown

theorem exists_of_makeDirectory {path : String} (made : fs.makeDirectory path = .ok fs') :
    ∃ loc, fs.locate (withoutFinalSlashes path) = .ok loc ∧ fs.entry? loc = none ∧
      fs' = fs.put loc .directory := by
  rcases exists_of_bind_eq_ok made with ⟨loc, located, changed⟩
  split at changed
  · cases changed
  · next free =>
      split at changed
      · cases changed
      · exact ⟨loc, located, free, (Except.ok.inj changed).symm⟩

theorem addsDirectories_makeDirectory {path : String} (made : fs.makeDirectory path = .ok fs') :
    fs.AddsDirectories fs' := by
  rcases exists_of_makeDirectory made with ⟨loc, -, free, rfl⟩
  have below : loc ≠ [] := by
    apply ne_nil_of_free
    rw [free]
    simp
  refine ⟨grows_put (by rw [free]; simp) _, ?_⟩
  intro other content
  by_cases same : other = loc
  · rw [entry?_of_ne_nil below] at free
    rw [same, get?_put_self, free]
    simp
  · rw [get?_put_of_ne fs same]

/-- A directory that is there already is accepted as it is. -/
theorem eq_of_accepted {between : FileStore} {path : String} {e : FileError}
    (accepted : (if between.isDirectory path then Except.ok between else .error e) = .ok fs') :
    between = fs' ∧ between.isDirectory path = true := by
  split at accepted
  · next here => exact ⟨Except.ok.inj accepted, here⟩
  · cases accepted

/-- What holds between a store and the next whenever one directory is made, holds when all are made
that a directory lacks. -/
theorem related_of_makeDirectoriesTo {related : FileStore → FileStore → Prop}
    (none : ∀ s, related s s)
    (more : ∀ {s between s'}, related s between → related between s' → related s s')
    (one : ∀ {s s' path}, s.makeDirectory path = .ok s' → related s s')
    {depth : Nat} {path : String} (made : fs.makeDirectoriesTo depth path = .ok fs') :
    related fs fs' := by
  induction depth generalizing path fs' with
  | zero => cases made
  | succ depth inductionHypothesis =>
      rw [makeDirectoriesTo] at made
      split at made
      · rw [← Except.ok.inj made]
        exact none fs
      · split at made
        · next here =>
            rw [← Except.ok.inj made]
            exact one here
        · split at made
          · cases made
          · split at made
            · cases made
            · next parents =>
                have above := inductionHypothesis parents
                split at made
                · next here =>
                    rw [← Except.ok.inj made]
                    exact more above (one here)
                · rw [← (eq_of_accepted made).1]
                  exact above
        · rw [← (eq_of_accepted made).1]
          exact none fs

/-- Making directories leaves all files as they are. -/
theorem addsDirectories_makeDirectories {path : String}
    (made : fs.makeDirectories path = .ok fs') : fs.AddsDirectories fs' :=
  related_of_makeDirectoriesTo AddsDirectories.refl AddsDirectories.trans
    addsDirectories_makeDirectory made

/-! ## Files below a directory -/

/-- Whether all files stand where names lead. -/
def WellNamed (fs : FileStore) : Prop :=
  ∀ loc content, fs.entries.get? loc = some (.file content) →
    loc ≠ [] ∧ ∀ name ∈ loc, IsName name

theorem wellNamed_iff :
    fs.WellNamed ↔ ∀ e ∈ fs.entries.entries, e.2 ≠ .directory →
      e.1 ≠ [] ∧ ∀ name ∈ e.1, IsName name := by
  constructor
  · rintro wellNamed ⟨loc, entry⟩ listed isFile
    cases entry with
    | directory => exact absurd rfl isFile
    | file content => exact wellNamed loc content (fs.entries.get?_eq_some_iff.mpr listed)
  · intro wellNamed loc content isFile
    exact wellNamed _ (fs.entries.get?_eq_some_iff.mp isFile) (by simp)

instance (fs : FileStore) : Decidable fs.WellNamed := decidable_of_iff _ wellNamed_iff.symm

theorem AddsDirectories.wellNamed (adds : fs.AddsDirectories fs') (wellNamed : fs.WellNamed) :
    fs'.WellNamed :=
  fun loc content isFile => wellNamed loc content ((adds.files loc content).mp isFile)

theorem isDirectory_iff {path : String} :
    fs.isDirectory path = true ↔
      ∃ loc, fs.locate path = .ok loc ∧ fs.entry? loc = some .directory := by
  rw [isDirectory, lookup?]
  cases fs.locate path with
  | error e => simp
  | ok loc => simp

theorem Grows.isDirectory (grows : fs.Grows fs') {path : String}
    (isDirectory : fs.isDirectory path = true) : fs'.isDirectory path = true := by
  rcases isDirectory_iff.mp isDirectory with ⟨loc, located, here⟩
  exact isDirectory_iff.mpr ⟨loc, grows.locate located, grows.directories loc here⟩

theorem eq_append_of_below? {dir loc rest : Location} (below : below? dir loc = some rest) :
    loc = dir ++ rest := by
  induction dir generalizing loc with
  | nil => exact Option.some.inj below
  | cons d dir inductionHypothesis =>
      cases loc with
      | nil => cases below
      | cons n loc =>
          rw [below?] at below
          split at below
          · next same =>
              rw [inductionHypothesis below, same]
              rfl
          · cases below

/-- The entry of a file below a directory, and the names on the way down to it. -/
theorem exists_names_of_entry (wellNamed : fs.WellNamed) {dir : Location} {directory path : String}
    {e : Location × Entry} (listed : e ∈ fs.entries.entries)
    (made : (match e.2 with
      | .directory => none
      | .file _ => (below? dir e.1).map fun names => names.foldl join directory) = some path) :
    ∃ names, e.1 = dir ++ names ∧ e.1 ≠ [] ∧ e.2 ≠ .directory ∧ (∀ n ∈ names, IsName n) ∧
      path = names.foldl join directory := by
  rcases e with ⟨loc, entry⟩
  cases entry with
  | directory => cases made
  | file content =>
      rcases Option.map_eq_some_iff.mp made with ⟨names, below, rfl⟩
      have divided := eq_append_of_below? below
      rcases wellNamed loc content (fs.entries.get?_eq_some_iff.mpr listed) with ⟨nonempty, isNames⟩
      refine ⟨names, divided, nonempty, by simp, ?_, rfl⟩
      intro n member
      have inLocation : n ∈ dir ++ names := List.mem_append_right dir member
      rw [← divided] at inLocation
      exact isNames n inLocation

/-- The files below a directory are named by the names on the way down. -/
theorem exists_names_of_mem_filesBelow (wellNamed : fs.WellNamed) {directory path : String}
    (isDirectory : fs.isDirectory directory = true) (member : path ∈ fs.filesBelow directory) :
    ∃ names, names ≠ [] ∧ (∀ n ∈ names, IsName n) ∧ path = names.foldl join directory := by
  rcases isDirectory_iff.mp isDirectory with ⟨dir, located, here⟩
  rw [filesBelow, located] at member
  rcases List.mem_filterMap.mp member with ⟨e, listed, made⟩
  rcases exists_names_of_entry wellNamed listed made with
    ⟨names, divided, below, isFile, isNames, same⟩
  refine ⟨names, ?_, isNames, same⟩
  -- With no name in between, the file would stand where the directory does.
  rintro rfl
  rw [List.append_nil] at divided
  rw [← divided, entry?_of_ne_nil below, fs.entries.get?_eq_some_iff.mpr listed] at here
  exact isFile (Option.some.inj here)

/-- No two files below a directory have one path. -/
theorem nodup_filesBelow (wellNamed : fs.WellNamed) (directory : String) :
    (fs.filesBelow directory).Nodup := by
  rw [filesBelow]
  split
  · exact List.nodup_nil
  · next dir located =>
      have distinct := fs.entries.nodup
      rw [List.Nodup, List.pairwise_map] at distinct
      rw [List.Nodup, List.pairwise_filterMap]
      apply distinct.imp_of_mem
      intro first second isFirst isSecond different path made path' made' same
      -- Entries with one path have the same names on the way down, and so one location.
      rcases exists_names_of_entry wellNamed isFirst made with
        ⟨names, divided, -, -, isNames, shown⟩
      rcases exists_names_of_entry wellNamed isSecond made' with
        ⟨names', divided', -, -, isNames', shown'⟩
      have components := components_foldl_join directory isNames
      rw [← shown, same, shown', components_foldl_join directory isNames'] at components
      have sameNames : names' = names :=
        (List.map_inj_right fun _ _ => Component.name.inj).mp (List.append_cancel_left components)
      exact different (by rw [divided, divided', sameNames])

end FileStore
end Folio
