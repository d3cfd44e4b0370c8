import Folio.Page.FullText
import Folio.Proofs.Markup.Place
import Mathlib.Data.List.Pairwise

namespace Folio

open Markup

/-!
# The places of full-text fragments

Fragments are taken from the paragraphs and the list items outside code, and no two of them overlap.
None is taken twice, since a path overlaps itself.
-/

theorem pathsOverlap_iff {first second : TreePath} :
    pathsOverlap first second = true ↔ first <+: second ∨ second <+: first := by
  rw [pathsOverlap, Bool.or_eq_true, List.isPrefixOf_iff_prefix, List.isPrefixOf_iff_prefix]

theorem pathsOverlap_self (path : TreePath) : pathsOverlap path path = true := by
  rw [pathsOverlap, Bool.or_self]
  exact List.isPrefixOf_iff_prefix.mpr (List.prefix_refl path)

/-- What is taken was taken before or stands in the list that is gone through. -/
theorem mem_or_mem_of_mem_takeFree {taken paths : List TreePath} {path : TreePath}
    (member : path ∈ takeFree taken paths) : path ∈ taken ∨ path ∈ paths := by
  induction paths generalizing taken with
  | nil => exact Or.inl member
  | cons first paths inductionHypothesis =>
      rw [takeFree, List.foldl_cons] at member
      rcases inductionHypothesis member with before | later
      · split at before
        · exact Or.inl before
        · rcases List.mem_append.mp before with before | same
          · exact Or.inl before
          · exact Or.inr (List.mem_cons.mpr (Or.inl (List.mem_singleton.mp same)))
      · exact Or.inr (List.mem_cons_of_mem first later)

/-- What is taken overlaps nothing else that is taken. -/
theorem pairwise_takeFree {taken : List TreePath}
    (apart : taken.Pairwise fun first second => ¬ pathsOverlap second first)
    (paths : List TreePath) :
    (takeFree taken paths).Pairwise fun first second => ¬ pathsOverlap second first := by
  induction paths generalizing taken with
  | nil => exact apart
  | cons path paths inductionHypothesis =>
      rw [takeFree, List.foldl_cons]
      apply inductionHypothesis
      split
      · exact apart
      · next free =>
          rw [List.pairwise_append]
          refine ⟨apart, List.pairwise_singleton _ _, ?_⟩
          intro first member second same overlap
          rw [List.mem_singleton.mp same] at overlap
          exact free (List.any_eq_true.mpr ⟨first, member, overlap⟩)

theorem takeFree_append (taken first second : List TreePath) :
    takeFree taken (first ++ second) = takeFree (takeFree taken first) second :=
  List.foldl_append

/-- A path that overlaps none of those that are gone through makes no difference to what is taken
of them. -/
theorem exists_takeFree_of_apart {path : TreePath} (taken : List TreePath) {paths : List TreePath}
    (apart : ∀ other ∈ paths, ¬ pathsOverlap other path) :
    ∃ more, (∀ other ∈ more, other ∈ paths) ∧ takeFree taken paths = taken ++ more ∧
      takeFree (taken ++ [path]) paths = taken ++ path :: more := by
  -- The paths taken behind `path` are told apart, for the induction to add to them.
  suffices grown : ∀ behind : List TreePath, ∃ more, (∀ other ∈ more, other ∈ paths) ∧
      takeFree (taken ++ behind) paths = taken ++ (behind ++ more) ∧
      takeFree (taken ++ path :: behind) paths = taken ++ path :: (behind ++ more) by
    simpa using grown []
  induction paths with
  | nil => exact fun behind => ⟨[], by simp, by simp [takeFree], by simp [takeFree]⟩
  | cons other paths inductionHypothesis =>
      intro behind
      have later := inductionHypothesis fun q member => apart q (List.mem_cons_of_mem other member)
      have sameTest : (taken ++ path :: behind).any (pathsOverlap other) =
          (taken ++ behind).any (pathsOverlap other) := by
        simp [List.any_append, List.any_cons, apart other List.mem_cons_self]
      rw [takeFree, takeFree, List.foldl_cons, List.foldl_cons, sameTest]
      split
      · rcases later behind with ⟨more, within, without, withPath⟩
        exact ⟨more, fun q member => List.mem_cons_of_mem other (within q member), without, withPath⟩
      · rcases later (behind ++ [other]) with ⟨more, within, without, withPath⟩
        refine ⟨other :: more, ?_, ?_, ?_⟩
        · intro q member
          rcases List.mem_cons.mp member with rfl | isMore
          · exact List.mem_cons_self
          · exact List.mem_cons_of_mem other (within q isMore)
        · simpa [takeFree] using without
        · simpa [takeFree] using withPath

namespace Document

/-- A full-text fragment is a paragraph or a list item below the root and outside code. -/
theorem mem_pathsOutsideCode_of_mem_fullTextPaths {d : Document} {path : TreePath}
    (member : path ∈ d.fullTextPaths) :
    path ∈ d.pathsOutsideCode (fun e => e.tag == "p") ∨
      path ∈ d.pathsOutsideCode (fun e => e.tag == "li") := by
  simp only [fullTextPaths, fullTextTags, List.foldl_cons, List.foldl_nil] at member
  rcases mem_or_mem_of_mem_takeFree member with paragraph | item
  · rcases mem_or_mem_of_mem_takeFree paragraph with impossible | paragraph
    · cases impossible
    · exact Or.inl paragraph
  · exact Or.inr item

theorem pairwise_fullTextPaths (d : Document) :
    d.fullTextPaths.Pairwise fun first second => ¬ pathsOverlap second first := by
  simp only [fullTextPaths, fullTextTags, List.foldl_cons, List.foldl_nil]
  exact pairwise_takeFree (pairwise_takeFree List.Pairwise.nil _) _

theorem nodup_fullTextPaths (d : Document) : d.fullTextPaths.Nodup := by
  apply d.pairwise_fullTextPaths.imp
  rintro path _ apart rfl
  exact apart (pathsOverlap_self path)

/-- No fragment stands in another one. -/
theorem not_prefix_of_mem_fullTextPaths {d : Document} {first second : TreePath}
    (isFirst : first ∈ d.fullTextPaths) (isSecond : second ∈ d.fullTextPaths)
    (different : first ≠ second) : ¬ first <+: second := by
  have symmetric : Std.Symm fun first second : TreePath => ¬ pathsOverlap second first := by
    constructor
    intro first second apart
    rwa [pathsOverlap, Bool.or_comm, ← pathsOverlap]
  have apart := d.pairwise_fullTextPaths.forall isFirst isSecond different
  intro isFront
  apply apart
  rw [pathsOverlap, List.isPrefixOf_iff_prefix.mpr isFront, Bool.or_true]

/-- The element of a full-text fragment, and where it stands. -/
theorem place_of_mem_fullTextPaths {d : Document} {path : TreePath}
    (member : path ∈ d.fullTextPaths) :
    path ≠ [] ∧ (∃ e, d.at? path = some e ∧ (e.tag = "p" ∨ e.tag = "li")) ∧
      d.OutsideCode path := by
  rcases mem_pathsOutsideCode_of_mem_fullTextPaths member with listed | listed
  · rcases mem_pathsOutsideCode_iff.mp listed with ⟨below, ⟨e, atPath, tag⟩, outside⟩
    exact ⟨below, ⟨e, atPath, Or.inl (by simpa using tag)⟩, outside⟩
  · rcases mem_pathsOutsideCode_iff.mp listed with ⟨below, ⟨e, atPath, tag⟩, outside⟩
    exact ⟨below, ⟨e, atPath, Or.inr (by simpa using tag)⟩, outside⟩

end Document

end Folio
