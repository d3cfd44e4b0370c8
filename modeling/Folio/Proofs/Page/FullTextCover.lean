import Folio.Proofs.Page.FullTextPath

namespace Folio

open Markup

/-!
# How fragments cover the running text

Fragments are taken greedily, in two walks, each place being compared with all that have been taken
before.  Which places are taken in the end does not depend on the order.  A walk lists what stands
around an element before the element itself, so among places that overlap it is the outermost one
that is taken.

Of the paragraphs outside code these are the ones in no other paragraph.  A list item is taken if it
is in no paragraph and holds none, and if the list items around it could not be taken, since each of
them holds a paragraph.  So every paragraph outside code lies in one fragment and in no other.
-/

/-- Whether a path overlaps none of those that have been taken. -/
def IsClear (taken : List TreePath) (path : TreePath) : Prop :=
  ∀ other ∈ taken, ¬ pathsOverlap path other

theorem any_pathsOverlap_iff {taken : List TreePath} {path : TreePath} :
    taken.any (pathsOverlap path) = true ↔ ¬ IsClear taken path := by
  rw [List.any_eq_true, IsClear]
  simp only [not_forall, not_not, exists_prop]

theorem isClear_concat_iff {taken : List TreePath} {first path : TreePath} :
    IsClear (taken ++ [first]) path ↔ IsClear taken path ∧ ¬ path <+: first ∧ ¬ first <+: path := by
  rw [IsClear, List.forall_mem_append, List.forall_mem_singleton, pathsOverlap_iff, not_or]
  rfl

/-- In a list in document order no path leads through one that comes later. -/
theorem not_prefix_of_sorted {first : TreePath} {paths : List TreePath}
    (sorted : (first :: paths).Pairwise (· < ·)) : ∀ other ∈ paths, ¬ other <+: first := by
  intro other member isFront
  exact isFront.le ((List.pairwise_cons.mp sorted).1 other member)

/-- Of paths in document order those are taken that are clear of what has been taken before, and
that lead through no other such path. -/
theorem mem_takeFree_iff {taken paths : List TreePath} (sorted : paths.Pairwise (· < ·))
    {path : TreePath} :
    path ∈ takeFree taken paths ↔
      path ∈ taken ∨ (path ∈ paths ∧ IsClear taken path ∧
        ∀ other ∈ paths, IsClear taken other → other <+: path → other = path) := by
  induction paths generalizing taken with
  | nil => simp [takeFree]
  | cons first paths inductionHypothesis =>
      have later := not_prefix_of_sorted sorted
      have rest := (List.pairwise_cons.mp sorted).2
      rw [takeFree, List.foldl_cons, ← takeFree]
      by_cases clear : IsClear taken first
      · -- The first path is taken, and what leads through it is not clear from here on.
        rw [if_neg (any_pathsOverlap_iff.not.mpr (not_not.mpr clear)), inductionHypothesis rest]
        simp only [isClear_concat_iff, List.mem_append, List.mem_cons, List.not_mem_nil, or_false]
        constructor
        · rintro ((before | same) | ⟨listed, clearPath, outermost⟩)
          · exact Or.inl before
          · refine Or.inr ⟨Or.inl same, same ▸ clear, ?_⟩
            rintro other (isFirst | isLater) - isFront
            · exact isFirst.trans same.symm
            · exact absurd (same ▸ isFront) (later other isLater)
          · refine Or.inr ⟨Or.inr listed, clearPath.1, ?_⟩
            rintro other (isFirst | isLater) clearOther isFront
            · exact absurd (isFirst ▸ isFront) clearPath.2.2
            · refine outermost other isLater ⟨clearOther, later other isLater, ?_⟩ isFront
              exact fun through => clearPath.2.2 (through.trans isFront)
        · rintro (before | ⟨same | listed, clearPath, outermost⟩)
          · exact Or.inl (Or.inl before)
          · exact Or.inl (Or.inr same)
          · by_cases through : first <+: path
            · exact Or.inl (Or.inr (outermost first (Or.inl rfl) clear through).symm)
            · refine Or.inr ⟨listed, ⟨clearPath, later path listed, through⟩, ?_⟩
              exact fun other isLater clearOther =>
                outermost other (Or.inr isLater) clearOther.1
      · -- The first path is passed over, and it is in the way of no other one.
        rw [if_pos (any_pathsOverlap_iff.mpr clear), inductionHypothesis rest]
        simp only [List.mem_cons]
        constructor
        · rintro (before | ⟨listed, clearPath, outermost⟩)
          · exact Or.inl before
          · refine Or.inr ⟨Or.inr listed, clearPath, ?_⟩
            rintro other (isFirst | isLater) clearOther isFront
            · exact absurd (isFirst ▸ clearOther) clear
            · exact outermost other isLater clearOther isFront
        · rintro (before | ⟨same | listed, clearPath, outermost⟩)
          · exact Or.inl before
          · exact absurd (same ▸ clearPath) clear
          · exact Or.inr ⟨listed, clearPath, fun other isLater => outermost other (Or.inr isLater)⟩

/-- Each path of a list leads through one of those that are taken, if none was taken before. -/
theorem exists_prefix_mem_takeFree {paths : List TreePath} (sorted : paths.Pairwise (· < ·))
    {path : TreePath} (listed : path ∈ paths) : ∃ front ∈ takeFree [] paths, front <+: path := by
  -- The induction is on the length: a listed path in front is shorter.
  by_cases outermost : ∀ other ∈ paths, other <+: path → other = path
  · refine ⟨path, (mem_takeFree_iff sorted).mpr (Or.inr ⟨listed, ?_, ?_⟩), List.prefix_refl path⟩
    · intro other member
      cases member
    · exact fun other member _ => outermost other member
  · simp only [not_forall, exists_prop] at outermost
    rcases outermost with ⟨other, isListed, isFront, different⟩
    have shorter : other.length < path.length :=
      Nat.lt_of_le_of_ne isFront.length_le fun same => different (isFront.eq_of_length same)
    rcases exists_prefix_mem_takeFree sorted isListed with ⟨front, taken, through⟩
    exact ⟨front, taken, through.trans isFront⟩
termination_by path.length

namespace Document

/-- Whether the element at a path has a tag. -/
def HasTagAt (d : Document) (tag : String) (path : TreePath) : Prop :=
  ∃ e, d.at? path = some e ∧ e.tag = tag

/-- Whether a paragraph stands around a path. -/
def InParagraph (d : Document) (path : TreePath) : Prop :=
  ∃ front, front <+: path ∧ front ≠ path ∧ d.HasTagAt "p" front

/-- Whether a paragraph that is not inside code stands below a path. -/
def HoldsParagraph (d : Document) (path : TreePath) : Prop :=
  ∃ below, path <+: below ∧ path ≠ below ∧ d.HasTagAt "p" below ∧ d.OutsideCode below

theorem mem_pathsOutsideCode_tag_iff {d : Document} {tag : String} (noRoot : tag ≠ "article")
    {path : TreePath} :
    path ∈ d.pathsOutsideCode (fun e => e.tag == tag) ↔
      d.HasTagAt tag path ∧ d.OutsideCode path := by
  rw [mem_pathsOutsideCode_iff, HasTagAt]
  simp only [beq_iff_eq]
  constructor
  · exact fun ⟨_, found, outside⟩ => ⟨found, outside⟩
  · rintro ⟨⟨e, atPath, tagged⟩, outside⟩
    refine ⟨?_, ⟨e, atPath, tagged⟩, outside⟩
    rintro rfl
    exact noRoot (tagged.symm.trans (congrArg Element.tag (Option.some.inj atPath)).symm)

theorem HasTagAt.unique {d : Document} {first second : String} {path : TreePath}
    (isFirst : d.HasTagAt first path) (isSecond : d.HasTagAt second path) : first = second := by
  rcases isFirst with ⟨e, atPath, rfl⟩
  rcases isSecond with ⟨e', atPath', rfl⟩
  rw [Option.some.inj (atPath.symm.trans atPath')]

/-- The fragments that are taken in the first walk: the paragraphs in no other paragraph. -/
def outerParagraphs (d : Document) : List TreePath :=
  takeFree [] (d.pathsOutsideCode fun e => e.tag == "p")

theorem mem_outerParagraphs_iff {d : Document} {path : TreePath} :
    path ∈ d.outerParagraphs ↔
      d.HasTagAt "p" path ∧ d.OutsideCode path ∧ ¬ d.InParagraph path := by
  rw [outerParagraphs, mem_takeFree_iff (d.pairwise_pathsOutsideCode _)]
  simp only [mem_pathsOutsideCode_tag_iff (show "p" ≠ "article" by decide)]
  constructor
  · rintro (impossible | ⟨⟨paragraph, outside⟩, -, outermost⟩)
    · cases impossible
    · refine ⟨paragraph, outside, ?_⟩
      rintro ⟨front, isFront, proper, around⟩
      exact proper (outermost front ⟨around, outside.of_prefix isFront⟩ (by simp [IsClear]) isFront)
  · rintro ⟨paragraph, outside, alone⟩
    refine Or.inr ⟨⟨paragraph, outside⟩, by simp [IsClear], ?_⟩
    rintro other ⟨around, -⟩ - isFront
    by_contra different
    exact alone ⟨other, isFront, different, around⟩

/-- A paragraph outside code lies in one that the first walk takes. -/
theorem exists_outerParagraph {d : Document} {path : TreePath} (paragraph : d.HasTagAt "p" path)
    (outside : d.OutsideCode path) : ∃ front ∈ d.outerParagraphs, front <+: path :=
  exists_prefix_mem_takeFree (d.pairwise_pathsOutsideCode _)
    ((mem_pathsOutsideCode_tag_iff (by decide)).mpr ⟨paragraph, outside⟩)

/-- A list item is clear of the paragraphs that are taken if it is in none and holds none. -/
theorem isClear_outerParagraphs_iff {d : Document} {path : TreePath} (item : d.HasTagAt "li" path)
    (outside : d.OutsideCode path) :
    IsClear d.outerParagraphs path ↔ ¬ d.InParagraph path ∧ ¬ d.HoldsParagraph path := by
  constructor
  · intro clear
    constructor
    · rintro ⟨front, isFront, -, around⟩
      rcases exists_outerParagraph around (outside.of_prefix isFront) with ⟨outer, taken, through⟩
      exact clear outer taken (pathsOverlap_iff.mpr (Or.inr (through.trans isFront)))
    · rintro ⟨below, isFront, -, held, outsideBelow⟩
      rcases exists_outerParagraph held outsideBelow with ⟨outer, taken, through⟩
      exact clear outer taken
        (pathsOverlap_iff.mpr (List.prefix_or_prefix_of_prefix isFront through))
  · rintro ⟨alone, empty⟩ other taken overlap
    rcases mem_outerParagraphs_iff.mp taken with ⟨paragraph, outsideOther, -⟩
    have different : path ≠ other := by
      rintro rfl
      exact absurd (item.unique paragraph) (by decide)
    rcases pathsOverlap_iff.mp overlap with holds | around
    · exact empty ⟨other, holds, different, paragraph, outsideOther⟩
    · exact alone ⟨other, around, different.symm, paragraph⟩

/-! ## The fragments of a page -/

theorem InParagraph.of_prefix {d : Document} {front path : TreePath} (isFront : front <+: path)
    (inside : d.InParagraph front) : d.InParagraph path := by
  rcases inside with ⟨outer, isOuter, proper, paragraph⟩
  refine ⟨outer, isOuter.trans isFront, ?_, paragraph⟩
  rintro rfl
  exact proper (isOuter.eq_of_length (Nat.le_antisymm isOuter.length_le isFront.length_le))

/-- What has a fragment of its own, told without the order in which fragments are taken: a paragraph
in no other paragraph, or a list item that is in no paragraph and holds none, around which there are
only list items that hold one. -/
structure IsFragment (d : Document) (path : TreePath) : Prop where
  outside : d.OutsideCode path
  alone : ¬ d.InParagraph path
  kind : d.HasTagAt "p" path ∨
    (d.HasTagAt "li" path ∧ ¬ d.HoldsParagraph path ∧
      ∀ front, front <+: path → front ≠ path → d.HasTagAt "li" front → d.HoldsParagraph front)

theorem mem_fullTextPaths_iff {d : Document} {path : TreePath} :
    path ∈ d.fullTextPaths ↔ d.IsFragment path := by
  have walks : d.fullTextPaths =
      takeFree d.outerParagraphs (d.pathsOutsideCode fun e => e.tag == "li") := rfl
  rw [walks, mem_takeFree_iff (d.pairwise_pathsOutsideCode _), mem_outerParagraphs_iff]
  simp only [mem_pathsOutsideCode_tag_iff (show "li" ≠ "article" by decide)]
  constructor
  · rintro (⟨paragraph, outside, alone⟩ | ⟨⟨item, outside⟩, clear, outermost⟩)
    · exact ⟨outside, alone, Or.inl paragraph⟩
    · rcases (isClear_outerParagraphs_iff item outside).mp clear with ⟨alone, empty⟩
      refine ⟨outside, alone, Or.inr ⟨item, empty, ?_⟩⟩
      intro front isFront proper around
      by_contra emptyFront
      have outsideFront := outside.of_prefix isFront
      have clearFront := (isClear_outerParagraphs_iff around outsideFront).mpr
        ⟨fun inside => alone (inside.of_prefix isFront), emptyFront⟩
      exact proper (outermost front ⟨around, outsideFront⟩ clearFront isFront)
  · rintro ⟨outside, alone, paragraph | ⟨item, empty, around⟩⟩
    · exact Or.inl ⟨paragraph, outside, alone⟩
    · refine Or.inr ⟨⟨item, outside⟩, (isClear_outerParagraphs_iff item outside).mpr
        ⟨alone, empty⟩, ?_⟩
      rintro front ⟨itemFront, outsideFront⟩ clearFront isFront
      by_contra proper
      exact ((isClear_outerParagraphs_iff itemFront outsideFront).mp clearFront).2
        (around front isFront proper itemFront)

/-- A paragraph outside code lies in exactly one fragment. -/
theorem existsUnique_fragment {d : Document} {path : TreePath} (paragraph : d.HasTagAt "p" path)
    (outside : d.OutsideCode path) : ∃! fragment, fragment ∈ d.fullTextPaths ∧ fragment <+: path := by
  rcases exists_outerParagraph paragraph outside with ⟨outer, taken, around⟩
  rcases mem_outerParagraphs_iff.mp taken with ⟨isParagraph, outsideOuter, alone⟩
  have fragment : outer ∈ d.fullTextPaths :=
    mem_fullTextPaths_iff.mpr ⟨outsideOuter, alone, Or.inl isParagraph⟩
  refine ⟨outer, ⟨fragment, around⟩, ?_⟩
  rintro other ⟨isFragment, aroundOther⟩
  by_contra different
  rcases List.prefix_or_prefix_of_prefix aroundOther around with inner | inner
  · exact not_prefix_of_mem_fullTextPaths isFragment fragment different inner
  · exact not_prefix_of_mem_fullTextPaths fragment isFragment (Ne.symm different) inner

/-- The fragments of a page overlap nowhere, and they are what has a fragment of its own by the rule
that knows no order.  Every paragraph outside code lies in exactly one of them. -/
theorem fullTextPaths_cover (d : Document) :
    (d.fullTextPaths.Pairwise fun first second => ¬ first <+: second ∧ ¬ second <+: first) ∧
      (∀ path, path ∈ d.fullTextPaths ↔ d.IsFragment path) ∧
      ∀ path, d.HasTagAt "p" path → d.OutsideCode path →
        ∃! fragment, fragment ∈ d.fullTextPaths ∧ fragment <+: path := by
  refine ⟨?_, fun path => mem_fullTextPaths_iff, fun path => existsUnique_fragment⟩
  apply d.pairwise_fullTextPaths.imp
  intro first second apart
  rw [pathsOverlap_iff, not_or] at apart
  exact ⟨apart.2, apart.1⟩

/-- A list whose first item holds a paragraph and a list, and whose second item holds code. -/
example :
    Document.fullTextPaths
        { children :=
            [.element "ul" Dict.empty
              [.element "li" Dict.empty
                  [.element "p" Dict.empty [.element "p" Dict.empty []],
                    .element "ol" Dict.empty [.element "li" Dict.empty []]],
                .element "li" Dict.empty
                  [.element "pre" Dict.empty [.element "p" Dict.empty []],
                    .element "li" Dict.empty []]]] } =
      [[0, 0, 0], [0, 0, 1, 0], [0, 1]] := by
  decide

end Document

end Folio
