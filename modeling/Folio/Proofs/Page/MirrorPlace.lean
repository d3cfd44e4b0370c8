import Folio.Proofs.Page.FullTextPath
import Folio.Proofs.Page.Mirror
import Mathlib.Data.List.Sort

namespace Folio

open Markup

/-!
# Places in a mirror image

A permalink moves what stands in its heading one position on, so a path into a page does not lead to
the same place in the mirror image.  Paths are aligned: at every step the position is moved on by
the number of children that have been put in front.  Aligned paths lead to mirror images of
elements, and to every element of the mirror image but permalinks.

Alignment keeps the order of paths and the fronts of each path.  The paths that a walk lists are
therefore aligned too, and so are the fragments of running text, which are chosen by the order of
paths and by what leads through what.
-/

namespace Markup.Element

/-- The path in `e'` to the mirror image of what stands at a path in `e`. -/
def align : (e e' : Element) → TreePath → TreePath
  | _, _, [] => []
  | e, e', i :: path =>
    (i + (e'.children.length - e.children.length)) ::
      match e.child? i, e'.child? (i + (e'.children.length - e.children.length)) with
      | some c, some c' => align c c' path
      | _, _ => path

@[simp] theorem align_nil (e e' : Element) : e.align e' [] = [] := by rw [align]

theorem length_align (e e' : Element) (path : TreePath) :
    (e.align e' path).length = path.length := by
  induction path generalizing e e' with
  | nil => rw [align]
  | cons i path inductionHypothesis =>
      rw [align, List.length_cons, List.length_cons]
      split
      · rw [inductionHypothesis]
      · rfl

/-- Fronts of a path are aligned like the path. -/
theorem align_take (e e' : Element) (path : TreePath) (n : Nat) :
    e.align e' (path.take n) = (e.align e' path).take n := by
  induction path generalizing e e' n with
  | nil => simp
  | cons i path inductionHypothesis =>
      cases n with
      | zero => simp
      | succ n =>
          rw [List.take_succ_cons, align, align, List.take_succ_cons]
          split
          · rw [inductionHypothesis]
          · rfl

/-- Alignment keeps the order of paths. -/
theorem align_lt_align (e e' : Element) {first second : TreePath} (before : first < second) :
    e.align e' first < e.align e' second := by
  induction first generalizing e e' second with
  | nil =>
      cases second with
      | nil => exact absurd before (List.lt_irrefl [])
      | cons j second =>
          rw [align, align]
          exact List.nil_lt_cons _ _
  | cons i first inductionHypothesis =>
      cases second with
      | nil => exact absurd before (List.not_lt_nil _)
      | cons j second =>
          rw [align, align, List.cons_lt_cons_iff]
          rcases List.cons_lt_cons_iff.mp before with smaller | ⟨rfl, later⟩
          · exact Or.inl (by omega)
          · refine Or.inr ⟨rfl, ?_⟩
            split
            · exact inductionHypothesis _ _ later
            · exact later

theorem align_injective (e e' : Element) : Function.Injective (e.align e') := by
  intro first second same
  apply List.le_antisymm
  · intro after
    exact absurd (same ▸ e.align_lt_align e' after) (List.lt_irrefl _)
  · intro before
    exact absurd (same ▸ e.align_lt_align e' before) (List.lt_irrefl _)

theorem align_eq_nil_iff (e e' : Element) {path : TreePath} : e.align e' path = [] ↔ path = [] := by
  rw [← List.length_eq_zero_iff, length_align, List.length_eq_zero_iff]

theorem align_prefix_align_iff (e e' : Element) {front path : TreePath} :
    e.align e' front <+: e.align e' path ↔ front <+: path := by
  rw [List.prefix_iff_eq_take, List.prefix_iff_eq_take, length_align, ← align_take]
  exact (e.align_injective e').eq_iff

/-- The fronts of an aligned path are aligned. -/
theorem exists_of_prefix_align (e e' : Element) {front' path : TreePath}
    (isFront : front' <+: e.align e' path) :
    ∃ front, front <+: path ∧ e.align e' front = front' := by
  rw [List.prefix_iff_eq_take, ← align_take] at isFront
  exact ⟨path.take front'.length, List.take_prefix _ _, isFront.symm⟩

theorem align_append {e e' c c' : Element} {front : TreePath} (atFront : e.at? front = some c)
    (atFront' : e'.at? (e.align e' front) = some c') (path : TreePath) :
    e.align e' (front ++ path) = e.align e' front ++ c.align c' path := by
  induction front generalizing e e' with
  | nil =>
      rw [align_nil] at atFront'
      rw [Option.some.inj atFront, Option.some.inj atFront', align_nil, List.nil_append,
        List.nil_append]
  | cons i front inductionHypothesis =>
      rw [align] at atFront'
      rcases Option.bind_eq_some_iff.mp atFront with ⟨b, atChild, atFront⟩
      rcases Option.bind_eq_some_iff.mp atFront' with ⟨b', atChild', atFront'⟩
      simp only [atChild, atChild'] at atFront'
      simp only [List.cons_append, align, atChild, atChild', inductionHypothesis atFront atFront']

theorem exists_align_concat (e e' : Element) (front : TreePath) (i : Nat) :
    ∃ j, e.align e' (front ++ [i]) = e.align e' front ++ [j] := by
  induction front generalizing e e' with
  | nil =>
      rw [align_nil]
      exact List.length_eq_one_iff.mp (length_align e e' [i])
  | cons k front inductionHypothesis =>
      rw [List.cons_append, align, align]
      split
      · rcases inductionHypothesis _ _ with ⟨j, aligned⟩
        exact ⟨j, by rw [aligned, List.cons_append]⟩
      · exact ⟨i, rfl⟩

namespace Mirrors

variable {e e' : Element}

/-- The children of a mirror image stand behind what has been put in front of them. -/
theorem exists_shift (mirrors : e.Mirrors e') :
    ∃ front children', e'.children = front ++ children' ∧ IsAddition e.tag front ∧
      e'.children.length - e.children.length = front.length ∧
      Node.MirrorsIn e.children children' := by
  rcases mirrors.exists_children with ⟨front, children', divided, addition, content⟩
  refine ⟨front, children', divided, addition, ?_, content⟩
  rw [divided, List.length_append, content.length_eq, Nat.add_sub_cancel]

theorem child?_align (mirrors : e.Mirrors e') (i : Nat) :
    Option.Rel Mirrors (e.child? i)
      (e'.child? (i + (e'.children.length - e.children.length))) := by
  rcases mirrors.exists_shift with ⟨front, children', divided, -, shift, content⟩
  have moved : e'.children[i + front.length]? = children'[i]? := by
    rw [divided, List.getElem?_append_right (Nat.le_add_left _ _), Nat.add_sub_cancel]
  rw [shift, child?, child?, moved]
  rcases none_or_some_of_rel (content.getElem? i) with
    ⟨atPlace, atPlace'⟩ | ⟨n, m, atPlace, atPlace', here⟩
  · rw [atPlace, atPlace']
    exact Option.Rel.none
  · rw [atPlace, atPlace']
    exact here.element?

/-- Aligned paths lead to an element and its mirror image, or nowhere. -/
theorem at?_align (mirrors : e.Mirrors e') (path : TreePath) :
    Option.Rel Mirrors (e.at? path) (e'.at? (e.align e' path)) := by
  induction path generalizing e e' with
  | nil =>
      rw [align_nil]
      exact Option.Rel.some mirrors
  | cons i path inductionHypothesis =>
      rw [align, at?_cons, at?_cons]
      rcases none_or_some_of_rel (mirrors.child?_align i) with
        ⟨atChild, atChild'⟩ | ⟨c, c', atChild, atChild', same⟩
      · simp only [atChild, atChild']
        exact Option.Rel.none
      · simp only [atChild, atChild']
        exact inductionHypothesis same

/-- What stands around aligned paths mirrors each other. -/
theorem ancestors_align (mirrors : e.Mirrors e') (path : TreePath) :
    List.Forall₂ Mirrors (e.ancestors path) (e'.ancestors (e.align e' path)) := by
  induction path generalizing e e' with
  | nil =>
      rw [align_nil]
      exact List.Forall₂.nil
  | cons i path inductionHypothesis =>
      rw [align, ancestors, ancestors]
      refine List.Forall₂.cons mirrors ?_
      rcases none_or_some_of_rel (mirrors.child?_align i) with
        ⟨atChild, atChild'⟩ | ⟨c, c', atChild, atChild', same⟩
      · simp only [atChild, atChild']
        exact List.Forall₂.nil
      · simp only [atChild, atChild']
        exact inductionHypothesis same

/-- An element of a mirror image stands at an aligned path, or it is a permalink. -/
theorem exists_align_eq (mirrors : e.Mirrors e') {path' : TreePath} {c' : Element}
    (atPath' : e'.at? path' = some c') :
    (∃ path, e.align e' path = path') ∨ ∃ id, c' = permalink id := by
  induction path' generalizing e e' with
  | nil => exact Or.inl ⟨[], align_nil e e'⟩
  | cons j path' inductionHypothesis =>
      rcases Option.bind_eq_some_iff.mp atPath' with ⟨b', atChild', below⟩
      rcases mirrors.exists_shift with ⟨front, children', divided, addition, shift, -⟩
      by_cases added : j < front.length
      · -- Only a permalink stands there, and no element stands in it.
        rcases addition with rfl | ⟨-, id, rfl⟩
        · exact absurd added (Nat.not_lt_zero j)
        · have first : j = 0 := Nat.lt_one_iff.mp added
          subst first
          rw [child?, divided] at atChild'
          have same : permalink id = b' := Option.some.inj atChild'
          subst same
          cases path' with
          | nil => exact Or.inr ⟨id, (Option.some.inj below).symm⟩
          | cons k path' =>
              rcases Option.bind_eq_some_iff.mp below with ⟨b, atIcon, -⟩
              cases k with
              | zero => cases atIcon
              | succ k => cases atIcon
      · have back : j - front.length + front.length = j :=
          Nat.sub_add_cancel (Nat.le_of_not_lt added)
        have child := mirrors.child?_align (j - front.length)
        rw [shift, back] at child
        rcases none_or_some_of_rel child with ⟨-, nothing⟩ | ⟨b, c, atChild, found, same⟩
        · rw [atChild'] at nothing
          cases nothing
        · have equal : b' = c := Option.some.inj (atChild'.symm.trans found)
          rw [← equal] at same
          rcases inductionHypothesis same below with ⟨path, aligned⟩ | isPermalink
          · refine Or.inl ⟨(j - front.length) :: path, ?_⟩
            rw [align, shift, back]
            simp only [atChild, atChild', aligned]
          · exact Or.inr isPermalink

/-! ## Walks and fragments -/

theorem exists_of_at?_eq_some (mirrors : e.Mirrors e') {path : TreePath} {c : Element}
    (atPath : e.at? path = some c) :
    ∃ c', e'.at? (e.align e' path) = some c' ∧ c.Mirrors c' := by
  rcases none_or_some_of_rel (mirrors.at?_align path) with
    ⟨nothing, -⟩ | ⟨b, b', found, found', same⟩
  · rw [atPath] at nothing
    cases nothing
  · rw [Option.some.inj (atPath.symm.trans found)]
    exact ⟨b', found', same⟩

theorem exists_of_at?_align_eq_some (mirrors : e.Mirrors e') {path : TreePath} {c' : Element}
    (atPath' : e'.at? (e.align e' path) = some c') : ∃ c, e.at? path = some c ∧ c.Mirrors c' := by
  rcases none_or_some_of_rel (mirrors.at?_align path) with
    ⟨-, nothing⟩ | ⟨b, b', found, found', same⟩
  · rw [atPath'] at nothing
    cases nothing
  · rw [Option.some.inj (atPath'.symm.trans found')]
    exact ⟨b, found, same⟩

theorem reaches_align_iff (mirrors : e.Mirrors e') {enter : Element → Bool}
    (steady : Steady enter) (path : TreePath) :
    e'.Reaches enter (e.align e' path) ↔ e.Reaches enter path := by
  constructor
  · intro reaches front c isFront below proper atFront
    rcases mirrors.exists_of_at?_eq_some atFront with ⟨c', atFront', same⟩
    rw [← steady c c' same]
    exact reaches (e.align e' front) c' ((align_prefix_align_iff e e').mpr isFront)
      (fun empty => below ((align_eq_nil_iff e e').mp empty))
      (fun equal => proper (align_injective e e' equal)) atFront'
  · intro reaches front' c' isFront' below proper atFront'
    rcases exists_of_prefix_align e e' isFront' with ⟨front, isFront, rfl⟩
    rcases mirrors.exists_of_at?_align_eq_some atFront' with ⟨c, atFront, same⟩
    rw [steady c c' same]
    exact reaches front c isFront (fun empty => below ((align_eq_nil_iff e e').mpr empty))
      (fun equal => proper (congrArg _ equal)) atFront

/-- A walk that overlooks permalinks lists aligned paths in the mirror image. -/
theorem pathsFrom_align (mirrors : e.Mirrors e') {enter p : Element → Bool} (steady : Steady enter)
    (overlooks : Overlooks p) :
    Node.pathsFrom enter p 0 e'.children =
      (Node.pathsFrom enter p 0 e.children).map (e.align e') := by
  have ordered : ((Node.pathsFrom enter p 0 e.children).map (e.align e')).Pairwise (· < ·) :=
    List.pairwise_map.mpr
      ((Node.pairwise_pathsFrom enter p 0 e.children).imp fun before => align_lt_align e e' before)
  apply (Node.pairwise_pathsFrom enter p 0 e'.children).eq_of_mem_iff ordered
  intro path'
  rw [List.mem_map]
  constructor
  · intro listed
    rcases mem_pathsFrom_iff.mp listed with ⟨below, ⟨c', atPath', passes⟩, reaches⟩
    rcases mirrors.exists_align_eq atPath' with ⟨path, rfl⟩ | ⟨id, rfl⟩
    · rcases mirrors.exists_of_at?_align_eq_some atPath' with ⟨c, atPath, same⟩
      rw [overlooks.steady c c' same] at passes
      refine ⟨path, mem_pathsFrom_iff.mpr ⟨?_, ⟨c, atPath, passes⟩, ?_⟩, rfl⟩
      · exact fun empty => below ((align_eq_nil_iff e e').mpr empty)
      · exact (mirrors.reaches_align_iff steady path).mp reaches
    · rw [overlooks.fails id] at passes
      cases passes
  · rintro ⟨path, listed, rfl⟩
    rcases mem_pathsFrom_iff.mp listed with ⟨below, ⟨c, atPath, passes⟩, reaches⟩
    rcases mirrors.exists_of_at?_eq_some atPath with ⟨c', atPath', same⟩
    rw [← overlooks.steady c c' same] at passes
    refine mem_pathsFrom_iff.mpr ⟨?_, ⟨c', atPath', passes⟩, ?_⟩
    · exact fun empty => below ((align_eq_nil_iff e e').mp empty)
    · exact (mirrors.reaches_align_iff steady path).mpr reaches

end Mirrors

theorem pathsOverlap_align (e e' : Element) (first second : TreePath) :
    pathsOverlap (e.align e' first) (e.align e' second) = pathsOverlap first second := by
  apply Bool.eq_iff_iff.mpr
  simp only [pathsOverlap, Bool.or_eq_true, List.isPrefixOf_iff_prefix, align_prefix_align_iff]

theorem takeFree_align (e e' : Element) (taken paths : List TreePath) :
    takeFree (taken.map (e.align e')) (paths.map (e.align e')) =
      (takeFree taken paths).map (e.align e') := by
  induction paths generalizing taken with
  | nil => rfl
  | cons path paths inductionHypothesis =>
      have overlap : (taken.map (e.align e')).any (pathsOverlap (e.align e' path)) =
          taken.any (pathsOverlap path) := by
        rw [List.any_map]
        congr 1
        funext other
        exact pathsOverlap_align e e' path other
      rw [List.map_cons, takeFree, List.foldl_cons, overlap, takeFree, List.foldl_cons]
      split
      · exact inductionHypothesis taken
      · have later := inductionHypothesis (taken ++ [path])
        rw [List.map_append] at later
        exact later

end Markup.Element

namespace Document

/-- Whether the second document mirrors the first. -/
def Mirrors (d d' : Document) : Prop := d.root.Mirrors d'.root

/-- The path in `d'` to the mirror image of what stands at a path in `d`. -/
def align (d d' : Document) (path : TreePath) : TreePath := d.root.align d'.root path

theorem mirrors_addPermalinks (d : Document) : d.Mirrors d.addPermalinks :=
  ⟨d.attrs, [], _, rfl, fun _ _ => rfl, Or.inl rfl, Node.mirrorsIn_addPermalinksIn d.children none⟩

theorem mirrors_publishLinks (d : Document) : d.Mirrors d.publishLinks :=
  ⟨d.attrs, [], _, rfl, fun _ _ => rfl, Or.inl rfl, Node.mirrorsIn_publishLinksIn d.children⟩

namespace Mirrors

variable {d d' : Document} (mirrors : d.Mirrors d')

include mirrors

theorem map_at? {α : Type} {view : Element → α} (steady : Steady view) (path : TreePath) :
    (d'.at? (d.align d' path)).map view = (d.at? path).map view := by
  rcases none_or_some_of_rel (Element.Mirrors.at?_align mirrors path) with
    ⟨nothing, nothing'⟩ | ⟨c, c', found, found', same⟩
  · rw [at?, at?, align, nothing, nothing']
  · rw [at?, at?, align, found, found']
    exact congrArg some (steady c c' same)

theorem map_ancestors {α : Type} {view : Element → α} (steady : Steady view) (path : TreePath) :
    (d'.ancestors (d.align d' path)).map view = (d.ancestors path).map view :=
  steady.map_eq (Element.Mirrors.ancestors_align mirrors path)

theorem allPaths_eq {p : Element → Bool} (overlooks : Overlooks p) :
    d'.allPaths p = (d.allPaths p).map (d.align d') :=
  Element.Mirrors.pathsFrom_align mirrors (fun _ _ _ => rfl) overlooks

theorem pathsOutsideCode_eq {p : Element → Bool} (overlooks : Overlooks p) :
    d'.pathsOutsideCode p = (d.pathsOutsideCode p).map (d.align d') :=
  Element.Mirrors.pathsFrom_align mirrors
    (steady_tag.comp fun tag => !(tag == "pre")) overlooks

theorem fullTextPaths_eq : d'.fullTextPaths = d.fullTextPaths.map (d.align d') := by
  simp only [fullTextPaths, fullTextTags, List.foldl_cons, List.foldl_nil]
  rw [pathsOutsideCode_eq mirrors (overlooks_tag (by decide)),
    pathsOutsideCode_eq mirrors (overlooks_tag (by decide))]
  have paragraphs := Element.takeFree_align d.root d'.root [] (d.pathsOutsideCode (·.tag == "p"))
  have items := Element.takeFree_align d.root d'.root
    (takeFree [] (d.pathsOutsideCode (·.tag == "p"))) (d.pathsOutsideCode (·.tag == "li"))
  rw [← paragraphs] at items
  exact items

end Mirrors

end Document

end Folio
