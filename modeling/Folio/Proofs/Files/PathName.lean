import Folio.Files.PathName
import Folio.Proofs.Text.Line

namespace Folio
namespace PathName

/-!
# Laws of path names

A path is determined by its pieces, and joining puts pieces together.  A plain path is made of
names only.  Joined to any directory it has its names behind those of the directory, so its names
are found again below the directory, and its extension can be changed before it is joined to the
directory or after.
-/

theorem pieces_ne_nil (path : String) : pieces path ≠ [] := by
  simp [pieces, List.splitOn_ne_nil]

theorem slash_not_mem_of_mem_pieces {path piece : String} (member : piece ∈ pieces path) :
    '/' ∉ piece.toList := by
  rcases List.mem_map.mp member with ⟨part, isPart, rfl⟩
  rw [String.toList_ofList]
  exact Text.not_mem_of_mem_splitOn isPart

/-- A path is its pieces with slashes between them. -/
theorem intercalate_pieces (path : String) : "/".intercalate (pieces path) = path := by
  have whole : "/".toList.intercalate (path.toList.splitOn '/') = path.toList :=
    List.intercalate_splitOn '/'
  have same : String.toList ∘ String.ofList = id := by
    funext cs
    exact String.toList_ofList
  apply String.ext
  rw [String.toList_intercalate, pieces, List.map_map, same, List.map_id, whole]

theorem pieces_intercalate {names : List String} (nonempty : names ≠ [])
    (free : ∀ n ∈ names, '/' ∉ n.toList) : pieces ("/".intercalate names) = names := by
  have cut : ("/".toList.intercalate (names.map String.toList)).splitOn '/' =
      names.map String.toList := by
    apply List.splitOn_intercalate '/'
    · intro part member
      rcases List.mem_map.mp member with ⟨n, isName, rfl⟩
      exact free n isName
    · simpa using nonempty
  have same : String.ofList ∘ String.toList = id := by
    funext n
    exact String.ofList_toList
  rw [pieces, String.toList_intercalate, cut, List.map_map, same, List.map_id]

theorem eq_of_pieces_eq {first second : String} (same : pieces first = pieces second) :
    first = second := by
  rw [← intercalate_pieces first, same, intercalate_pieces second]

theorem pieces_append_slash (front back : String) :
    pieces (front ++ "/" ++ back) = pieces front ++ pieces back := by
  have characters : (front ++ "/" ++ back).toList = front.toList ++ '/' :: back.toList := by
    simp
  rw [pieces, characters, List.splitOn_append_cons_self, List.map_append]
  rfl

/-- The pieces that a path has in front when it is joined to a directory. -/
def joint (directory : String) : List String :=
  if directory.isEmpty then []
  else if directory.toList.getLast? == some '/' then (pieces directory).dropLast
  else pieces directory

/-- A directory is written as nothing, with a slash at the end, or without one. -/
theorem join_cases (directory : String) :
    (directory = "" ∧ joint directory = [] ∧
      ∀ path, isAbsolute path = false → join directory path = path) ∨
    (directory ≠ "" ∧ joint directory ≠ [] ∧
      (pieces directory = joint directory ∨ pieces directory = joint directory ++ [""]) ∧
      ∀ path, isAbsolute path = false →
        join directory path = "/".intercalate (joint directory) ++ "/" ++ path) := by
  by_cases nothing : directory = ""
  · refine Or.inl ⟨nothing, by rw [joint, nothing]; rfl, ?_⟩
    intro path relative
    simp [join, relative, nothing]
  · have shown : directory.isEmpty = false := by simpa using nothing
    refine Or.inr ⟨nothing, ?_⟩
    cases slashed : directory.toList.getLast? == some '/' with
    | true =>
        rcases List.getLast?_eq_some_iff.mp (by simpa using slashed) with ⟨cs, characters⟩
        have divided : directory = String.ofList cs ++ "/" ++ "" := by
          apply String.ext
          simp [characters]
        have cut : pieces directory = pieces (String.ofList cs) ++ [""] := by
          have both := pieces_append_slash (String.ofList cs) ""
          rw [← divided] at both
          exact both
        have inFront : joint directory = pieces (String.ofList cs) := by
          rw [joint, shown, slashed, cut]
          simp
        refine ⟨by rw [inFront]; exact pieces_ne_nil _, Or.inr (by rw [inFront, cut]), ?_⟩
        intro path relative
        rw [join, relative, slashed, inFront, intercalate_pieces, divided]
        simp
    | false =>
        have inFront : joint directory = pieces directory := by
          rw [joint, shown, slashed]
          rfl
        refine ⟨by rw [inFront]; exact pieces_ne_nil _, Or.inl inFront.symm, ?_⟩
        intro path relative
        rw [join, relative, slashed, shown, inFront, intercalate_pieces]
        rfl

theorem slash_not_mem_of_mem_joint {directory piece : String} (member : piece ∈ joint directory) :
    '/' ∉ piece.toList := by
  rcases join_cases directory with ⟨-, none, -⟩ | ⟨-, -, same | same, -⟩
  · rw [none] at member
    cases member
  · rw [← same] at member
    exact slash_not_mem_of_mem_pieces member
  · have inside : piece ∈ pieces directory := by
      rw [same]
      exact List.mem_append_left _ member
    exact slash_not_mem_of_mem_pieces inside

theorem pieces_join (directory : String) {path : String} (relative : isAbsolute path = false) :
    pieces (join directory path) = joint directory ++ pieces path := by
  rcases join_cases directory with ⟨-, none, joined⟩ | ⟨-, some, -, joined⟩
  · rw [joined path relative, none, List.nil_append]
  · rw [joined path relative, pieces_append_slash,
      pieces_intercalate some fun n member => slash_not_mem_of_mem_joint member]

theorem isAbsolute_append {front : String} (nonempty : front ≠ "") (back : String) :
    isAbsolute (front ++ back) = isAbsolute front := by
  have something : front.toList ≠ [] := by
    rw [ne_eq, String.toList_eq_nil_iff]
    exact nonempty
  rcases List.exists_cons_of_ne_nil something with ⟨c, cs, characters⟩
  rw [isAbsolute, isAbsolute, String.toList_append, characters]
  rfl

theorem isAbsolute_join (directory : String) {path : String} (relative : isAbsolute path = false) :
    isAbsolute (join directory path) = isAbsolute directory := by
  rw [join, relative, if_neg Bool.false_ne_true]
  by_cases nothing : directory = ""
  · have here : isAbsolute "" = false := rfl
    rw [nothing, here]
    simpa using relative
  · split
    · exact isAbsolute_append nothing path
    · rw [String.append_assoc, isAbsolute_append nothing]

/-- A name of a file or a directory: a piece that leads one level down. -/
structure IsName (name : String) : Prop where
  nonempty : name ≠ ""
  notHere : name ≠ "."
  notUp : name ≠ ".."
  free : '/' ∉ name.toList

instance (name : String) : Decidable (IsName name) :=
  decidable_of_iff (name ≠ "" ∧ name ≠ "." ∧ name ≠ ".." ∧ '/' ∉ name.toList)
    ⟨fun h => ⟨h.1, h.2.1, h.2.2.1, h.2.2.2⟩, fun h => ⟨h.nonempty, h.notHere, h.notUp, h.free⟩⟩

/-- Whether a path is made of names only. -/
def IsPlain (path : String) : Prop := ∀ piece ∈ pieces path, IsName piece

theorem IsName.isIdle {name : String} (isName : IsName name) : isIdle name = false := by
  simp [PathName.isIdle, isName.nonempty, isName.notHere]

theorem IsName.ofPiece {name : String} (isName : IsName name) :
    Component.ofPiece name = .name name := by
  rw [Component.ofPiece, if_neg isName.notUp, if_neg isName.notHere]

theorem pieces_of_names {names : List String} (nonempty : names ≠ [])
    (isNames : ∀ n ∈ names, IsName n) : pieces ("/".intercalate names) = names :=
  pieces_intercalate nonempty fun n member => (isNames n member).free

theorem pieces_of_isName {name : String} (isName : IsName name) : pieces name = [name] := by
  have alone := pieces_of_names (List.cons_ne_nil name []) (by simpa using isName)
  simpa using alone

theorem IsName.isPlain {name : String} (isName : IsName name) : IsPlain name := by
  intro piece member
  rw [pieces_of_isName isName, List.mem_singleton] at member
  rw [member]
  exact isName

/-- A plain path leads on from where it is joined to. -/
theorem IsPlain.isAbsolute {path : String} (plain : IsPlain path) : isAbsolute path = false := by
  rw [Bool.eq_false_iff]
  intro absolute
  rw [PathName.isAbsolute, beq_iff_eq] at absolute
  rcases List.head?_eq_some_iff.mp absolute with ⟨cs, characters⟩
  have empty : "" ∈ pieces path := by
    rw [pieces, characters, List.splitOn_cons_eq_if_modifyHead]
    simp
  exact (plain "" empty).nonempty rfl

/-! ## Components -/

/-- The components that are made of pieces. -/
def componentsOf (absolute : Bool) : List String → List Component
  | [] => []
  | first :: rest =>
    let tail := (rest.filter (!isIdle ·)).map Component.ofPiece
    if first = "" then (if absolute then .root :: tail else tail)
    else Component.ofPiece first :: tail

theorem components_eq (path : String) :
    components path = componentsOf (isAbsolute path) (pieces path) := by
  rw [components]
  cases pieces path <;> rfl

/-- Behind the first piece, pieces are looked at one by one. -/
theorem componentsOf_append (absolute : Bool) {front : List String} (nonempty : front ≠ [])
    (back : List String) :
    componentsOf absolute (front ++ back) =
      componentsOf absolute front ++ (back.filter (!isIdle ·)).map Component.ofPiece := by
  rcases List.exists_cons_of_ne_nil nonempty with ⟨first, rest, rfl⟩
  simp only [List.cons_append, componentsOf, List.filter_append, List.map_append]
  split
  · split <;> rfl
  · rfl

theorem map_ofPiece_names {names : List String} (isNames : ∀ n ∈ names, IsName n) :
    (names.filter (!isIdle ·)).map Component.ofPiece = names.map .name := by
  have busy : names.filter (!isIdle ·) = names := by
    apply List.filter_eq_self.mpr
    intro n member
    rw [(isNames n member).isIdle]
    rfl
  rw [busy]
  exact List.map_congr_left fun n member => (isNames n member).ofPiece

/-- Joined to a directory, a plain path adds its names. -/
theorem components_join (directory : String) {path : String} (plain : IsPlain path) :
    components (join directory path) = components directory ++ (pieces path).map .name := by
  rcases join_cases directory with ⟨nothing, -, joined⟩ | ⟨-, inFront, same, -⟩
  · rw [joined path plain.isAbsolute, nothing, components_eq path, plain.isAbsolute]
    rcases List.exists_cons_of_ne_nil (pieces_ne_nil path) with ⟨first, rest, cut⟩
    have names : ∀ n ∈ first :: rest, IsName n := cut ▸ plain
    have isName := names first List.mem_cons_self
    have isNames := fun n member => names n (List.mem_cons_of_mem first member)
    rw [cut, componentsOf, if_neg isName.nonempty, isName.ofPiece, map_ofPiece_names isNames]
    rfl
  · have absolute := isAbsolute_join directory plain.isAbsolute
    have ofJoint : components directory =
        componentsOf (isAbsolute directory) (joint directory) := by
      rw [components_eq]
      rcases same with same | same
      · rw [same]
      · rw [same, componentsOf_append _ inFront]
        simp [isIdle]
    rw [components_eq, absolute, pieces_join directory plain.isAbsolute,
      componentsOf_append _ inFront, map_ofPiece_names plain, ofJoint]

/-- The names on the way down from a directory make a path that adds them. -/
theorem components_foldl_join (directory : String) {names : List String}
    (isNames : ∀ n ∈ names, IsName n) :
    components (names.foldl join directory) = components directory ++ names.map .name := by
  induction names generalizing directory with
  | nil => simp
  | cons n names inductionHypothesis =>
      have isName := isNames n List.mem_cons_self
      have below := inductionHypothesis (join directory n)
        fun m member => isNames m (List.mem_cons_of_mem n member)
      rw [List.foldl_cons, below, components_join directory isName.isPlain,
        pieces_of_isName isName, List.append_assoc]
      rfl

theorem dropComponents?_append (base rest : List Component) :
    dropComponents? base (base ++ rest) = some rest := by
  induction base with
  | nil => rfl
  | cons c base inductionHypothesis =>
      rw [List.cons_append, dropComponents?, if_pos rfl]
      exact inductionHypothesis

/-- Seen from a directory, what is below it is named by the names on the way down. -/
theorem relativeTo?_foldl_join (directory : String) {names : List String}
    (isNames : ∀ n ∈ names, IsName n) :
    relativeTo? directory (names.foldl join directory) = some ("/".intercalate names) := by
  have texts : Component.text ∘ Component.name = id := rfl
  rw [relativeTo?, components_foldl_join directory isNames, dropComponents?_append,
    Option.map_some, List.map_map, texts, List.map_id]

/-- Whether a text can be put behind the dot of a file name and be found there again. -/
structure IsExtension (extension : String) : Prop where
  nonempty : extension ≠ ""
  slashless : '/' ∉ extension.toList
  dotless : '.' ∉ extension.toList

/-- What stands in front of the extension of a file name. -/
def stemOf (name : String) : String := (splitExtension name).1

theorem stemOf_spec (name : String) :
    (name ≠ "" → stemOf name ≠ "") ∧ ∀ c ∈ (stemOf name).toList, c ∈ name.toList := by
  simp only [stemOf, splitExtension]
  split
  · next c before divided =>
      refine ⟨fun _ => ?_, ?_⟩
      · rw [ne_eq, ← String.toList_eq_nil_iff]
        simp
      · intro d member
        have inReverse : d ∈ name.toList.reverse.dropWhile (· != '.') := by
          rw [divided]
          apply List.mem_cons_of_mem
          rw [String.toList_ofList, List.mem_reverse] at member
          exact member
        exact List.mem_reverse.mp ((List.dropWhile_suffix _).subset inReverse)
  · exact ⟨id, fun _ member => member⟩

/-- A name and an extension behind it are found again. -/
theorem splitExtension_append {stem extension : String} (nonempty : stem ≠ "")
    (isExtension : IsExtension extension) :
    splitExtension (stem ++ "." ++ extension) = (stem, some extension) := by
  have characters : (stem ++ "." ++ extension).toList.reverse =
      extension.toList.reverse ++ '.' :: stem.toList.reverse := by
    simp
  have noDot : ∀ c ∈ extension.toList.reverse, (c != '.') = true := by
    intro c member
    rw [bne_iff_ne]
    rintro rfl
    exact isExtension.dotless (List.mem_reverse.mp member)
  have after : (extension.toList.reverse ++ '.' :: stem.toList.reverse).takeWhile (· != '.') =
      extension.toList.reverse := by
    rw [List.takeWhile_append_of_pos noDot, List.takeWhile_cons_of_neg (by simp), List.append_nil]
  have before : (extension.toList.reverse ++ '.' :: stem.toList.reverse).dropWhile (· != '.') =
      '.' :: stem.toList.reverse := by
    rw [List.dropWhile_append_of_pos noDot, List.dropWhile_cons_of_neg (by simp)]
  have something : stem.toList.reverse ≠ [] := by simpa using nonempty
  rcases List.exists_cons_of_ne_nil something with ⟨c, cs, last⟩
  have whole : (c :: cs).reverse = stem.toList := by rw [← last, List.reverse_reverse]
  rw [last] at characters after before
  simp only [splitExtension, characters, after, before]
  rw [whole, List.reverse_reverse, String.ofList_toList, String.ofList_toList]

/-- A file name with another extension. -/
theorem IsName.withExtension {name extension : String} (isName : IsName name)
    (isExtension : IsExtension extension) : IsName (stemOf name ++ "." ++ extension) := by
  rcases stemOf_spec name with ⟨something, fromName⟩
  have long : 3 ≤ (stemOf name ++ "." ++ extension).toList.length := by
    have front : 0 < (stemOf name).toList.length := by
      apply List.length_pos_iff.mpr
      simpa using something isName.nonempty
    have back : 0 < extension.toList.length := by
      apply List.length_pos_iff.mpr
      simpa using isExtension.nonempty
    have whole : (stemOf name ++ "." ++ extension).toList.length =
        (stemOf name).toList.length + 1 + extension.toList.length := by
      simp only [String.toList_append, List.length_append]
      rfl
    omega
  have differs : ∀ short : String, short.toList.length < 3 →
      stemOf name ++ "." ++ extension ≠ short := by
    rintro short bound rfl
    omega
  refine ⟨differs "" (by decide), differs "." (by decide), differs ".." (by decide), ?_⟩
  intro member
  simp only [String.toList_append, List.mem_append] at member
  rcases member with (inStem | dot) | inExtension
  · exact isName.free (fromName '/' inStem)
  · exact absurd dot (by decide)
  · exact isExtension.slashless inExtension

/-- A path whose last component is a name, with another extension. -/
theorem withExtension_of_pieces {path name : String} {before : List String}
    (divided : pieces path = before ++ [name]) (isName : IsName name)
    (named : fileName? path = some name) (extension : String) :
    withExtension path extension =
      "/".intercalate (before ++ [stemOf name ++ "." ++ extension]) := by
  have stem : stem? path = some (stemOf name) := by
    rw [stem?, named]
    rfl
  have busy : dropIdle (name :: before.reverse) = name :: before.reverse := by
    cases before.reverse with
    | nil => rfl
    | cons p rest =>
        rw [dropIdle, isName.isIdle]
        · rfl
        · simp
  rw [withExtension, stem, divided, List.reverse_append, List.reverse_singleton,
    List.singleton_append, busy]
  simp

theorem fileName?_join (directory : String) {path name : String} {before : List String}
    (plain : IsPlain path) (divided : pieces path = before ++ [name]) :
    fileName? (join directory path) = some name := by
  rw [fileName?, components_join directory plain, divided, List.map_append]
  simp

theorem exists_pieces_concat (path : String) : ∃ before name, pieces path = before ++ [name] := by
  rcases List.eq_nil_or_concat (pieces path) with nothing | ⟨before, name, divided⟩
  · exact absurd nothing (pieces_ne_nil path)
  · exact ⟨before, name, by rw [divided, List.concat_eq_append]⟩

section PlainPath

variable {path name extension : String} {before : List String}

theorem IsPlain.isName_last (plain : IsPlain path) (divided : pieces path = before ++ [name]) :
    IsName name := by
  apply plain name
  rw [divided]
  exact List.mem_append_right before List.mem_cons_self

theorem IsPlain.fileName? (plain : IsPlain path) (divided : pieces path = before ++ [name]) :
    fileName? path = some name := by
  have named := fileName?_join "" plain divided
  have same : join "" path = path := by
    simp [join, plain.isAbsolute]
  rw [same] at named
  exact named

/-- Changing the extension of the last name leaves names. -/
theorem IsPlain.names_withExtension (plain : IsPlain path)
    (divided : pieces path = before ++ [name]) (isExtension : IsExtension extension) :
    ∀ n ∈ before ++ [stemOf name ++ "." ++ extension], IsName n := by
  intro n member
  rcases List.mem_append.mp member with inFront | last
  · apply plain n
    rw [divided]
    exact List.mem_append_left _ inFront
  · rw [List.mem_singleton.mp last]
    exact (plain.isName_last divided).withExtension isExtension

theorem pieces_withExtension (plain : IsPlain path) (divided : pieces path = before ++ [name])
    (isExtension : IsExtension extension) :
    pieces (withExtension path extension) = before ++ [stemOf name ++ "." ++ extension] := by
  rw [withExtension_of_pieces divided (plain.isName_last divided) (plain.fileName? divided)]
  exact pieces_of_names (by simp) (plain.names_withExtension divided isExtension)

theorem IsPlain.withExtension (plain : IsPlain path) (isExtension : IsExtension extension) :
    IsPlain (withExtension path extension) := by
  rcases exists_pieces_concat path with ⟨before, name, divided⟩
  intro n member
  rw [pieces_withExtension plain divided isExtension] at member
  exact plain.names_withExtension divided isExtension n member

/-- The extension of a plain path can be changed before it is joined to a directory or after. -/
theorem withExtension_join (directory : String) (plain : IsPlain path)
    (isExtension : IsExtension extension) :
    withExtension (join directory path) extension =
      join directory (withExtension path extension) := by
  rcases exists_pieces_concat path with ⟨before, name, divided⟩
  have joined : pieces (join directory path) = (joint directory ++ before) ++ [name] := by
    rw [pieces_join directory plain.isAbsolute, divided, List.append_assoc]
  have plain' := plain.withExtension isExtension
  rw [withExtension_of_pieces joined (plain.isName_last divided)
      (fileName?_join directory plain divided),
    ← intercalate_pieces (join directory (PathName.withExtension path extension)),
    pieces_join directory plain'.isAbsolute, pieces_withExtension plain divided isExtension,
    List.append_assoc]

/-- Only the last change of the extension counts. -/
theorem withExtension_withExtension (plain : IsPlain path) (isExtension : IsExtension extension)
    {other : String} (isOther : IsExtension other) :
    withExtension (withExtension path extension) other = withExtension path other := by
  rcases exists_pieces_concat path with ⟨before, name, divided⟩
  have isName := plain.isName_last divided
  have plain' := plain.withExtension isExtension
  have divided' := pieces_withExtension plain divided isExtension
  have stem : stemOf (stemOf name ++ "." ++ extension) = stemOf name := by
    have split := splitExtension_append ((stemOf_spec name).1 isName.nonempty) isExtension
    rw [stemOf, split]
  apply eq_of_pieces_eq
  rw [pieces_withExtension plain' divided' isOther, pieces_withExtension plain divided isOther,
    stem]

/-- A path that was given an extension has it. -/
theorem extension?_withExtension (plain : IsPlain path) (isExtension : IsExtension extension) :
    extension? (withExtension path extension) = some extension := by
  rcases exists_pieces_concat path with ⟨before, name, divided⟩
  have isName := plain.isName_last divided
  have named := (plain.withExtension isExtension).fileName?
    (pieces_withExtension plain divided isExtension)
  have split := splitExtension_append ((stemOf_spec name).1 isName.nonempty) isExtension
  rw [extension?, named, Option.bind_some, split]

end PlainPath

end PathName
end Folio
