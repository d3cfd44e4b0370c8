import Folio.Proofs.Page.AnchorAgreement

namespace Folio

open Markup

/-!
# Anchors of a page that grows

A heading or a paragraph without an identifier, put at the end of an article, is one more target.
All that is assigned before it keeps its identifier.  The full-text fragments that are assigned
after it, which have no identifier of their own, find one identifier more in use.  They keep theirs
if that is given to none of them; else one identifier is displaced after the other.  Every
identifier of the page remains one, though it may come to stand at another element.
-/

namespace Markup.Node

variable {enter p : Element → Bool}

theorem pathsFrom_append (i : Nat) (first second : List Node) :
    pathsFrom enter p i (first ++ second) =
      pathsFrom enter p i first ++ pathsFrom enter p (i + first.length) second := by
  induction first generalizing i with
  | nil => rfl
  | cons n first inductionHypothesis =>
      rw [List.cons_append, pathsFrom, pathsFrom, inductionHypothesis, List.append_assoc,
        List.length_cons, Nat.add_right_comm, Nat.add_assoc]

theorem pathsFrom_of_no_elements (i : Nat) {nodes : List Node} (none : elements nodes = []) :
    pathsFrom enter p i nodes = [] := by
  rw [List.eq_nil_iff_forall_not_mem]
  intro path listed
  rcases mem_pathsFrom_iff.mp listed with ⟨k, n, rest, atPlace, -, inside⟩
  rcases mem_paths_iff.mp inside with ⟨e, isElement, -⟩
  have member : e ∈ elements nodes :=
    List.mem_filterMap.mpr ⟨n, List.mem_of_getElem? atPlace, isElement⟩
  rw [none] at member
  cases member

end Markup.Node

/-- A heading or a paragraph as it comes from an author who gives it neither an identifier nor a
class and puts no element into it. -/
structure Markup.Element.IsPlainBlock (e : Element) : Prop where
  kind : e.isHeading = true ∨ e.tag = "p"
  noId : e.id? = none
  noClass : e.hasAttr "class" = false
  noElements : e.childElements = []

namespace Document

/-- A page with an element at the end of its article. -/
def withLast (d : Document) (e : Element) : Document := { d with children := d.children ++ [e.toNode] }

/-- Where the element at the end of an article stands. -/
def lastPath (d : Document) : TreePath := [d.children.length]

variable {d : Document} {e : Element}

theorem at?_withLast {path : TreePath} (below : path ≠ []) (found : (d.at? path).isSome) :
    (d.withLast e).at? path = d.at? path := by
  cases path with
  | nil => exact absurd rfl below
  | cons i path =>
      have bound : i < d.children.length := by
        apply Classical.byContradiction
        intro outside
        have nothing : d.root.child? i = none := by
          rw [Element.child?, root, List.getElem?_eq_none (Nat.le_of_not_lt outside)]
          rfl
        rw [at?, Element.at?_cons, nothing] at found
        cases found
      rw [at?, at?, Element.at?_cons, Element.at?_cons, Element.child?, Element.child?]
      change ((d.children ++ [e.toNode])[i]?.bind _).bind _ = (d.children[i]?.bind _).bind _
      rw [List.getElem?_append_left bound]

theorem at?_lastPath (d : Document) : d.at? d.lastPath = none := by
  rw [at?, lastPath, Element.at?_singleton, Element.child?, root,
    List.getElem?_eq_none (Nat.le_refl _)]
  rfl

theorem at?_withLast_lastPath (d : Document) (e : Element) :
    (d.withLast e).at? d.lastPath = some e := by
  rw [at?, lastPath, Element.at?_singleton, Element.child?]
  change (d.children ++ [e.toNode])[d.children.length]?.bind _ = _
  rw [List.getElem?_append_right (Nat.le_refl _), Nat.sub_self]
  rfl

/-- A walk lists one path more, if the test passes the new element, and lists it last. -/
theorem walk_withLast (noElements : e.childElements = []) (enter p : Element → Bool) :
    Node.pathsFrom enter p 0 (d.withLast e).children =
      Node.pathsFrom enter p 0 d.children ++ if p e then [d.lastPath] else [] := by
  rw [withLast, Node.pathsFrom_append, Nat.zero_add]
  congr 1
  rw [Node.pathsFrom, Node.pathsFrom, List.append_nil, Element.toNode, Node.paths,
    Node.pathsFrom_of_no_elements 0 noElements, ite_self, List.append_nil]
  change List.map _ (if p e then _ else _) = _
  split <;> rfl

theorem pathsOutsideCode_withLast (noElements : e.childElements = []) (p : Element → Bool) :
    (d.withLast e).pathsOutsideCode p =
      d.pathsOutsideCode p ++ if p e then [d.lastPath] else [] :=
  walk_withLast noElements _ p

theorem allPaths_withLast (noElements : e.childElements = []) (p : Element → Bool) :
    (d.withLast e).allPaths p = d.allPaths p ++ if p e then [d.lastPath] else [] :=
  walk_withLast noElements _ p

/-- No element of a page stands around the end of the article or in it. -/
theorem not_pathsOverlap_lastPath {path : TreePath} (below : path ≠ [])
    (found : (d.at? path).isSome) :
    ¬ pathsOverlap path d.lastPath ∧ ¬ pathsOverlap d.lastPath path := by
  have apart : ∀ rest, d.lastPath ++ rest ≠ path := by
    rintro rest rfl
    rw [at?, Element.at?_append, ← at?, at?_lastPath] at found
    cases found
  have around : ¬ path <+: d.lastPath := by
    intro isFront
    rcases List.prefix_cons_iff.mp isFront with empty | ⟨rest, same, isFront⟩
    · exact below empty
    · rw [List.prefix_nil.mp isFront] at same
      exact apart [] (by rw [List.append_nil, same]; rfl)
  have inside : ¬ d.lastPath <+: path := by
    rintro ⟨rest, same⟩
    exact apart rest same
  simp [pathsOverlap, List.isPrefixOf_iff_prefix, around, inside]

theorem isSome_at?_of_mem_pathsOutsideCode {p : Element → Bool} {path : TreePath}
    (listed : path ∈ d.pathsOutsideCode p) : path ≠ [] ∧ (d.at? path).isSome := by
  rcases mem_pathsOutsideCode_iff.mp listed with ⟨below, ⟨c, atPath, -⟩, -⟩
  exact ⟨below, by rw [atPath]; rfl⟩

theorem ne_lastPath_of_isSome {path : TreePath} (found : (d.at? path).isSome) :
    path ≠ d.lastPath := by
  rintro rfl
  rw [at?_lastPath] at found
  cases found

end Document

theorem Markup.Element.IsPlainBlock.isStructural_eq {e : Element} (plain : e.IsPlainBlock) :
    isStructural e = e.isHeading := by
  have noCallout : e.isCallout = false := by
    have noAttr : e.attr? "class" = none := Option.isNone_iff_eq_none.mp
      (by rw [← Option.not_isSome, Bool.not_eq_true']; exact plain.noClass)
    rw [Element.isCallout, Element.hasClass, Element.hasClass, noAttr]
    rfl
  rcases plain.kind with heading | paragraph
  · rw [isStructural, heading, Bool.true_or, Bool.true_or]
  · rw [isStructural, noCallout, paragraph, Bool.or_false]
    exact Bool.or_false _

namespace Document

variable {d : Document} {e : Element}

/-- Whether the element at a path is assigned after an element without an identifier at the end of
the article: it is a full-text fragment without an identifier of its own and no structure, and no
paragraph if the new element is one. -/
def IsAssignedAfter (d : Document) (e : Element) (path : TreePath) : Prop :=
  path ∈ d.fullTextPaths ∧ path ∉ d.pathsOutsideCode isStructural ∧ d.hasIdAt path = false ∧
    (e.isHeading = false → path ∉ d.pathsOutsideCode fun c => c.tag == "p")

/-- A new heading adds no fragment. -/
theorem fullTextPaths_withLast_heading (plain : e.IsPlainBlock) (heading : e.isHeading = true) :
    (d.withLast e).fullTextPaths = d.fullTextPaths := by
  have other : ∀ tag ∈ fullTextTags, (e.tag == tag) = false := by
    intro tag member
    rw [beq_eq_false_iff_ne]
    rintro rfl
    have apart : ∀ t ∈ fullTextTags, Element.headingTags.contains t = false := by decide
    rw [Element.isHeading, apart _ member] at heading
    cases heading
  simp only [fullTextPaths, fullTextTags, List.foldl_cons, List.foldl_nil]
  rw [pathsOutsideCode_withLast plain.noElements, pathsOutsideCode_withLast plain.noElements,
    other "p" (by decide), other "li" (by decide)]
  simp

/-- A new paragraph is a fragment, taken after the other paragraphs and before the list items. -/
theorem exists_fullTextPaths_withLast_paragraph (plain : e.IsPlainBlock)
    (paragraph : e.tag = "p") :
    ∃ taken more, d.fullTextPaths = taken ++ more ∧
      (d.withLast e).fullTextPaths = taken ++ d.lastPath :: more ∧
      ∀ path ∈ more, path ∈ d.pathsOutsideCode fun c => c.tag == "li" := by
  have apart : ∀ path ∈ d.pathsOutsideCode (fun c => c.tag == "li"),
      ¬ pathsOverlap path d.lastPath := by
    intro path listed
    rcases isSome_at?_of_mem_pathsOutsideCode listed with ⟨below, found⟩
    exact (not_pathsOverlap_lastPath below found).1
  rcases exists_takeFree_of_apart (takeFree [] (d.pathsOutsideCode fun c => c.tag == "p")) apart
    with ⟨more, within, without, withPath⟩
  refine ⟨takeFree [] (d.pathsOutsideCode fun c => c.tag == "p"), more, ?_, ?_, within⟩
  · simpa only [fullTextPaths, fullTextTags, List.foldl_cons, List.foldl_nil] using without
  · have free : (takeFree [] (d.pathsOutsideCode fun c => c.tag == "p")).any
        (pathsOverlap d.lastPath) = false := by
      rw [List.any_eq_false]
      intro path member
      rcases mem_or_mem_of_mem_takeFree member with impossible | listed
      · cases impossible
      · rcases isSome_at?_of_mem_pathsOutsideCode listed with ⟨below, found⟩
        exact (not_pathsOverlap_lastPath below found).2
    have taken : takeFree [] ((d.withLast e).pathsOutsideCode fun c => c.tag == "p") =
        takeFree [] (d.pathsOutsideCode fun c => c.tag == "p") ++ [d.lastPath] := by
      rw [pathsOutsideCode_withLast plain.noElements, paragraph,
        if_pos (beq_self_eq_true "p"), takeFree_append, takeFree, List.foldl_cons, List.foldl_nil, free]
      rfl
    simp only [fullTextPaths, fullTextTags, List.foldl_cons, List.foldl_nil]
    rw [taken, pathsOutsideCode_withLast plain.noElements, paragraph, if_neg (by decide),
      List.append_nil, withPath]

/-- The new element is one more target, which stands before those that are assigned after it. -/
theorem exists_anchorTargets_withLast (d : Document) (plain : e.IsPlainBlock) :
    ∃ earlier later, d.anchorTargets = earlier ++ later ∧
      (d.withLast e).anchorTargets = earlier ++ d.lastPath :: later ∧
      ∀ path ∈ later, path ∈ d.fullTextPaths ∧ path ∉ d.pathsOutsideCode isStructural ∧
        (e.isHeading = false → path ∉ d.pathsOutsideCode fun c => c.tag == "p") := by
  have notLast : ∀ path ∈ d.fullTextPaths, path ≠ d.lastPath := by
    intro path member
    rcases place_of_mem_fullTextPaths member with ⟨-, ⟨c, atPath, -⟩, -⟩
    exact ne_lastPath_of_isSome (by rw [atPath]; rfl)
  cases heading : e.isHeading with
  | true =>
      refine ⟨d.pathsOutsideCode isStructural, _, rfl, ?_, ?_⟩
      · rw [anchorTargets, fullTextPaths_withLast_heading plain heading,
          pathsOutsideCode_withLast plain.noElements, plain.isStructural_eq, heading, if_pos rfl,
          List.append_assoc, List.singleton_append]
        congr 2
        apply List.filter_congr
        intro path member
        simp [notLast path member]
      · intro path member
        rcases List.mem_filter.mp member with ⟨fragment, other⟩
        exact ⟨fragment, by simpa using other, fun impossible => by cases impossible⟩
  | false =>
      have paragraph : e.tag = "p" := by
        rcases plain.kind with isHeading | paragraph
        · rw [heading] at isHeading
          cases isHeading
        · exact paragraph
      rcases exists_fullTextPaths_withLast_paragraph (d := d) plain paragraph with
        ⟨taken, more, fragments, fragmentsWithLast, items⟩
      refine ⟨d.pathsOutsideCode isStructural ++
        taken.filter (!(d.pathsOutsideCode isStructural).contains ·),
        more.filter (!(d.pathsOutsideCode isStructural).contains ·), ?_, ?_, ?_⟩
      · rw [anchorTargets, fragments, List.filter_append, List.append_assoc]
      · have other : (d.pathsOutsideCode isStructural).contains d.lastPath = false := by
          rw [List.contains_eq_mem, decide_eq_false_iff_not]
          intro listed
          exact ne_lastPath_of_isSome (isSome_at?_of_mem_pathsOutsideCode listed).2 rfl
        rw [anchorTargets, fragmentsWithLast, pathsOutsideCode_withLast plain.noElements,
          plain.isStructural_eq, heading, if_neg Bool.false_ne_true, List.append_nil,
          List.filter_append, List.filter_cons, other, List.append_assoc]
        rfl
      · intro path member
        rcases List.mem_filter.mp member with ⟨isMore, other⟩
        refine ⟨by rw [fragments]; exact List.mem_append_right _ isMore, by simpa using other, ?_⟩
        intro _ listed
        rcases mem_pathsOutsideCode_iff.mp listed with ⟨-, ⟨c, atPath, isParagraph⟩, -⟩
        rcases mem_pathsOutsideCode_iff.mp (items path isMore) with ⟨-, ⟨c', atPath', isItem⟩, -⟩
        rw [atPath] at atPath'
        rw [← Option.some.inj atPath', beq_iff_eq.mp isParagraph] at isItem
        cases isItem

/-! ## The order of assignment -/

theorem hasIdAt_withLast {path : TreePath} (below : path ≠ []) (found : (d.at? path).isSome) :
    (d.withLast e).hasIdAt path = d.hasIdAt path := by
  rw [hasIdAt, hasIdAt, at?_withLast below found]

/-- The new element has its turn between those that are assigned before it and those that are
assigned after it. -/
theorem exists_anchorOrder_withLast (d : Document) (plain : e.IsPlainBlock) :
    ∃ earlier later, d.anchorOrder = earlier ++ later ∧
      (d.withLast e).anchorOrder = earlier ++ d.lastPath :: later ∧
      ∀ path ∈ later, d.IsAssignedAfter e path := by
  rcases d.exists_anchorTargets_withLast plain with ⟨earlier, later, targets, targetsWithLast, isLater⟩
  have sameId : ∀ path ∈ earlier ++ later, (d.withLast e).hasIdAt path = d.hasIdAt path := by
    intro path member
    rw [← targets, mem_anchorTargets_iff] at member
    rcases member.exists_element with ⟨c, atPath⟩
    exact hasIdAt_withLast member.ne_nil (by rw [atPath]; rfl)
  have noId : (d.withLast e).hasIdAt d.lastPath = false := by
    rw [hasIdAt, at?_withLast_lastPath, Option.bind_some, plain.noId]
    rfl
  have sameEarlier : ∀ path ∈ earlier, (d.withLast e).hasIdAt path = d.hasIdAt path :=
    fun path member => sameId path (List.mem_append_left later member)
  have sameLater : ∀ path ∈ later, (d.withLast e).hasIdAt path = d.hasIdAt path :=
    fun path member => sameId path (List.mem_append_right earlier member)
  refine ⟨earlier.filter d.hasIdAt ++ later.filter d.hasIdAt ++ earlier.filter (!d.hasIdAt ·),
    later.filter (!d.hasIdAt ·), ?_, ?_, ?_⟩
  · rw [anchorOrder, targets]
    simp only [List.filter_append, List.append_assoc]
  · rw [anchorOrder, targetsWithLast]
    simp only [List.filter_append, List.filter_cons, noId, Bool.not_false, Bool.false_eq_true,
      if_true, if_false, List.filter_congr sameEarlier, List.filter_congr sameLater,
      List.append_assoc]
    congr 2
    rw [List.filter_congr fun path member => congrArg _ (sameEarlier path member),
      List.filter_congr fun path member => congrArg _ (sameLater path member)]
  · intro path member
    rcases List.mem_filter.mp member with ⟨listed, lacks⟩
    rcases isLater path listed with ⟨fragment, other, notParagraph⟩
    exact ⟨fragment, other, by simpa using lacks, notParagraph⟩

/-- The new element has no identifier, so that none is reserved for it. -/
theorem reservedIds_withLast (d : Document) (plain : e.IsPlainBlock) :
    (d.withLast e).reservedIds = d.reservedIds := by
  rcases d.exists_anchorTargets_withLast plain with ⟨earlier, later, targets, targetsWithLast, -⟩
  have sameRoot : (d.withLast e).root.id? = d.root.id? := rfl
  have listed : ∀ path ∈ d.allPaths (fun c => c.id?.isSome),
      path ≠ [] ∧ (d.at? path).isSome := by
    intro path member
    rcases mem_allPaths_iff.mp member with ⟨below, c, atPath, -⟩
    exact ⟨below, by rw [atPath]; rfl⟩
  have others : ((d.withLast e).allPaths fun c => c.id?.isSome).filter
      (!(d.withLast e).anchorTargets.contains ·) =
      (d.allPaths fun c => c.id?.isSome).filter (!d.anchorTargets.contains ·) := by
    rw [allPaths_withLast plain.noElements, plain.noId, Option.isSome_none,
      if_neg Bool.false_ne_true, List.append_nil]
    apply List.filter_congr
    intro path member
    have different := ne_lastPath_of_isSome (listed path member).2
    rw [targets, targetsWithLast]
    simp [different]
  rw [reservedIds, reservedIds]
  simp only [others, sameRoot]
  congr 2
  apply List.filterMap_congr
  intro path member
  rcases listed path (List.mem_filter.mp member).1 with ⟨below, found⟩
  rw [at?_withLast below found]

end Document

end Folio
