import Folio.Proofs.Page.AnchorAssignment

namespace Folio

open Markup

/-!
# Identifiers that authors wrote

The elements to which an author gave identifiers have their turns first, so no identifier made from
a text is given out before.  But where two elements have one identifier, the second gets it with a
number behind it, and the author may have given just that to an element whose turn comes later.

An identifier that only one element has is kept by that element exactly if no other element is given
it.  It can be lost only to an identifier of two elements, by numbers put behind that one.
-/

namespace Document

section Page

variable {d : Document} {earlier later : List (TreePath × String)} {path : TreePath}
  {id own : String}

/-- The turn of an element with an identifier: the registry holds what was reserved and what earlier
turns have given out, and the element asks for its own identifier. -/
theorem exists_registry_of_givenIds (divided : d.givenIds = earlier ++ (path, id) :: later)
    (isOwn : d.idAt? path = some own) :
    ∃ r : IdRegistry, id = r.unique own ∧
      ∀ other, other ∈ r.ids ↔ other ∈ d.reservedIds.ids ∨ other ∈ earlier.map Prod.snd := by
  rcases exists_turn_of_assignments divided with ⟨r, e, atPath, given, inUse⟩
  have kept := idAt?_withIds_earlier divided (not_mem_earlier divided)
  rw [isOwn, idAt?, atPath, Option.bind_some] at kept
  exact ⟨r, by rw [given, anchorCandidate, kept, Option.getD_some], inUse⟩

/-- Elements with an identifier have their turns first. -/
theorem pairwise_anchorOrder (d : Document) :
    d.anchorOrder.Pairwise fun first second => d.hasIdAt second = true → d.hasIdAt first = true := by
  rw [anchorOrder, List.pairwise_append]
  refine ⟨?_, ?_, ?_⟩
  · exact List.pairwise_of_forall_mem_list fun first isFirst _ _ _ => (List.mem_filter.mp isFirst).2
  · refine List.pairwise_of_forall_mem_list fun _ _ second isSecond has => ?_
    have lacks := (List.mem_filter.mp isSecond).2
    rw [has] at lacks
    cases lacks
  · exact fun first isFirst _ _ _ => (List.mem_filter.mp isFirst).2

/-- Before an element with an identifier only other elements with an identifier have had turns. -/
theorem of_mem_earlier (divided : d.givenIds = earlier ++ (path, id) :: later)
    (isOwn : d.idAt? path = some own) {g : TreePath × String} (member : g ∈ earlier) :
    g.1 ≠ path ∧ ∃ ownEarlier, d.idAt? g.1 = some ownEarlier := by
  have listed : g.1 ∈ earlier.map Prod.fst := List.mem_map_of_mem member
  refine ⟨fun same => not_mem_earlier divided (same ▸ listed), ?_⟩
  have sorted := d.pairwise_anchorOrder
  rw [← map_fst_givenIds, divided, List.map_append, List.map_cons, List.pairwise_append] at sorted
  have has : d.hasIdAt path = true := by
    rw [hasIdAt, ← idAt?, isOwn, Option.isSome_some]
  have hasEarlier := sorted.2.2 g.1 listed path List.mem_cons_self has
  rwa [hasIdAt, ← idAt?, Option.isSome_iff_exists] at hasEarlier

/-- An element that is not given its own identifier is given that with a number behind it.  Another
element has the identifier too, or was given it at an earlier turn. -/
theorem exists_number_of_changed (divided : d.givenIds = earlier ++ (path, id) :: later)
    (isOwn : d.idAt? path = some own) (changed : id ≠ own) :
    (∃ n, id = IdRegistry.numbered own n) ∧
      ((∃ other, other ≠ path ∧ d.idAt? other = some own) ∨ ∃ other, (other, own) ∈ earlier) := by
  rcases exists_registry_of_givenIds divided isOwn with ⟨r, given, inUse⟩
  rcases r.unique_spec own with ⟨-, same⟩ | ⟨taken, n, -, numbered, -⟩
  · exact absurd (given.trans same) changed
  · refine ⟨⟨n, given.trans numbered⟩, ?_⟩
    rcases (inUse own).mp taken with reserved | givenEarlier
    · rcases mem_reservedIds_iff.mp reserved with ⟨other, e, noTarget, atOther, isOther⟩
      have target : d.IsAnchorTarget path := by
        rw [← mem_anchorOrder_iff, ← map_fst_givenIds, divided]
        simp
      refine Or.inl ⟨other, ?_, by rw [idAt?, atOther, Option.bind_some, isOther]⟩
      rintro rfl
      exact noTarget target
    · rcases List.mem_map.mp givenEarlier with ⟨⟨other, _⟩, member, rfl⟩
      exact Or.inr ⟨other, member⟩

end Page

/-- Whether two elements of a page have an identifier. -/
def IsRepeated (d : Document) (id : String) : Prop :=
  ∃ first second, first ≠ second ∧ d.idAt? first = some id ∧ d.idAt? second = some id

/-- An identifier with numbers behind it, the first of them next to it. -/
def numberedBy (id : String) (numbers : List Nat) : String :=
  numbers.foldl IdRegistry.numbered id

theorem numberedBy_concat (id : String) (numbers : List Nat) (n : Nat) :
    numberedBy id (numbers ++ [n]) = IdRegistry.numbered (numberedBy id numbers) n := by
  rw [numberedBy, List.foldl_append]
  rfl

/-- A number is put behind a low line. -/
theorem low_line_mem_numberedBy (id : String) {numbers : List Nat} (nonempty : numbers ≠ []) :
    '_' ∈ (numberedBy id numbers).toList := by
  rw [← List.dropLast_concat_getLast nonempty, numberedBy_concat, IdRegistry.numbered]
  simp

/-- An element with an identifier is given that one, or an identifier that two elements have, with
numbers behind it. -/
theorem eq_own_or_exists_repeated {d : Document} {earlier later : List (TreePath × String)}
    {path : TreePath} {id own : String} (divided : d.givenIds = earlier ++ (path, id) :: later)
    (isOwn : d.idAt? path = some own) :
    id = own ∨ ∃ base numbers, d.IsRepeated base ∧ numbers ≠ [] ∧ id = numberedBy base numbers := by
  by_cases changed : id = own
  · exact Or.inl changed
  · refine Or.inr ?_
    rcases exists_number_of_changed divided isOwn changed with
      ⟨⟨n, numbered⟩, ⟨other, different, isOther⟩ | ⟨other, member⟩⟩
    · exact ⟨own, [n], ⟨other, path, different, isOther, isOwn⟩, List.cons_ne_nil n [], numbered⟩
    · rcases of_mem_earlier divided isOwn member with ⟨different, ownOther, isOther⟩
      rcases List.append_of_mem member with ⟨before, between, rfl⟩
      have shorter : before.length < (before ++ (other, own) :: between).length := by simp
      rw [List.append_assoc, List.cons_append] at divided
      -- What the other element was given is its own, or has numbers behind it already.
      rcases eq_own_or_exists_repeated divided isOther with
        same | ⟨base, numbers, repeated, -, equal⟩
      · exact ⟨own, [n], ⟨other, path, different, same ▸ isOther, isOwn⟩, List.cons_ne_nil n [],
          numbered⟩
      · refine ⟨base, numbers ++ [n], repeated, by simp, ?_⟩
        rw [numberedBy_concat, ← equal]
        exact numbered
termination_by earlier.length

/-! ## Identifiers of one element -/

/-- An element whose identifier no other element has keeps it exactly if no other element is given
it, and else is given it with a number behind it.  It keeps it always, unless the identifier is one
that two elements have, with numbers behind it. -/
theorem idAttrAt?_assignAnchors_of_only {d : Document} {path : TreePath} {id : String}
    (target : d.IsAnchorTarget path) (own : d.idAt? path = some id)
    (only : ∀ other, other ≠ path → d.idAt? other ≠ some id) :
    (d.assignAnchors.idAttrAt? path = some id ↔
        ∀ other, other ≠ path → d.assignAnchors.idAttrAt? other ≠ some id) ∧
      (d.assignAnchors.idAttrAt? path = some id ∨
        ∃ n, d.assignAnchors.idAttrAt? path = some (IdRegistry.numbered id n)) ∧
      ((∀ base numbers, d.IsRepeated base → numbers ≠ [] → numberedBy base numbers ≠ id) →
        d.assignAnchors.idAttrAt? path = some id) := by
  rcases target.exists_element with ⟨e, atPath⟩
  rcases exists_given_of_target target atPath with ⟨given, member, -⟩
  have isGiven := idAttrAt?_assignAnchors_of_mem member
  rcases List.append_of_mem member with ⟨earlier, later, divided⟩
  by_cases changed : given = id
  · rw [changed] at isGiven member
    refine ⟨⟨fun _ other different => ?_, fun _ => isGiven⟩, Or.inl isGiven, fun _ => isGiven⟩
    exact idAttrAt?_assignAnchors_ne member different
  · have lost : d.assignAnchors.idAttrAt? path ≠ some id := by
      rw [isGiven]
      exact fun same => changed (Option.some.inj same)
    rcases exists_number_of_changed divided own changed with
      ⟨⟨n, numbered⟩, ⟨other, different, isOther⟩ | ⟨other, isEarlier⟩⟩
    · exact absurd isOther (only other different)
    · rcases of_mem_earlier divided own isEarlier with ⟨different, ownOther, isOther⟩
      refine ⟨⟨fun kept => absurd kept lost, fun free => ?_⟩, Or.inr ⟨n, numbered ▸ isGiven⟩, ?_⟩
      · have taken : (other, id) ∈ d.givenIds := divided ▸ List.mem_append_left _ isEarlier
        exact absurd (idAttrAt?_assignAnchors_of_mem taken) (free other different)
      · intro unlike
        rcases List.append_of_mem isEarlier with ⟨before, between, rfl⟩
        rw [List.append_assoc, List.cons_append] at divided
        rcases eq_own_or_exists_repeated divided isOther with
          same | ⟨base, numbers, repeated, nonempty, equal⟩
        · exact absurd (same ▸ isOther) (only other different)
        · exact absurd equal.symm (unlike base numbers repeated nonempty)

/-- Headings with identifiers, two of them with the same. -/
def headingsWithIds (last : String) : Document where
  children :=
    [.element "h2" ⟨[("id", "a")], by decide⟩ [.text "A"],
      .element "h2" ⟨[("id", "a")], by decide⟩ [.text "B"],
      .element "h2" ⟨[("id", last)], by simp⟩ [.text "C"]]

/-- An identifier that one walk finds at one path is at no other. -/
theorem idAt?_ne_of_allPaths_eq {d : Document} {path : TreePath} {id : String}
    (root : d.root.id? ≠ some id) (found : d.allPaths (fun e => e.id? == some id) = [path]) :
    ∀ other, other ≠ path → d.idAt? other ≠ some id := by
  intro other different isOther
  by_cases atRoot : other = []
  · subst atRoot
    exact root isOther
  · rcases Option.bind_eq_some_iff.mp isOther with ⟨e, atOther, own⟩
    have listed : other ∈ d.allPaths fun e => e.id? == some id :=
      mem_allPaths_iff.mpr ⟨atRoot, e, atOther, beq_iff_eq.mpr own⟩
    rw [found] at listed
    exact different (List.mem_singleton.mp listed)

/-- The identifier `b` is kept beside two that are the same. -/
theorem idAttrAt?_assignAnchors_of_only_headings :
    (headingsWithIds "b").IsAnchorTarget [2] ∧ (headingsWithIds "b").idAt? [2] = some "b" ∧
      (∀ other, other ≠ [2] → (headingsWithIds "b").idAt? other ≠ some "b") ∧
      (headingsWithIds "b").IsRepeated "a" ∧
      (headingsWithIds "b").assignAnchors.idAttrAt? [2] = some "b" := by
  have target : (headingsWithIds "b").IsAnchorTarget [2] :=
    mem_anchorTargets_iff.mp (by decide +kernel)
  have only : ∀ other, other ≠ [2] → (headingsWithIds "b").idAt? other ≠ some "b" :=
    idAt?_ne_of_allPaths_eq (by decide +kernel) (by decide +kernel)
  refine ⟨target, rfl, only, ⟨[0], [1], by decide, rfl, rfl⟩, ?_⟩
  apply (idAttrAt?_assignAnchors_of_only target rfl only).2.2
  intro base numbers _ nonempty same
  have lowLine := low_line_mem_numberedBy base nonempty
  rw [same] at lowLine
  revert lowLine
  decide

/-- The second of two elements with one identifier can be given that of a third element. -/
theorem not_forall_idAttrAt?_assignAnchors_of_only :
    ¬ ∀ (d : Document) (path : TreePath) (id : String), d.IsAnchorTarget path →
      d.idAt? path = some id → (∀ other, other ≠ path → d.idAt? other ≠ some id) →
      d.assignAnchors.idAttrAt? path = some id := by
  intro kept
  have same := kept (headingsWithIds "a_0") [2] "a_0" (mem_anchorTargets_iff.mp (by decide +kernel))
    rfl (idAt?_ne_of_allPaths_eq (by decide +kernel) (by decide +kernel))
  revert same
  decide +kernel

end Document

end Folio
