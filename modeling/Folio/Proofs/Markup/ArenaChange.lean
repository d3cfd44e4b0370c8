import Folio.Markup.Arena

namespace Folio
namespace Markup

/-!
# Reading a changed tree

While a tree is built, items are added, hung, moved and taken out, texts grow, and elements get
attributes.  For each of these steps this module says what is found in the tree afterwards: the kind
of an item, its parent, and its children.
-/

namespace Arena

variable {a : Arena}

theorem kind?_modify (a : Arena) (id x : Nat) {f : Item → Item} (keeps : ∀ i, (f i).kind = i.kind) :
    (a.modify id f).kind? x = a.kind? x := by
  rw [kind?, kind?, modify, Array.getElem?_modify]
  split
  · rw [Option.map_map]
    exact congrArg (Option.map · _) (funext keeps)
  · rfl

theorem parent?_modify (a : Arena) (id x : Nat) {f : Item → Item}
    (keeps : ∀ i, (f i).parent = i.parent) : (a.modify id f).parent? x = a.parent? x := by
  rw [parent?, parent?, modify, Array.getElem?_modify]
  split
  · rw [Option.bind_map]
    exact congrArg (Option.bind _ ·) (funext keeps)
  · rfl

theorem children_modify (a : Arena) (id x : Nat) {f : Item → Item}
    (keeps : ∀ i, (f i).children = i.children) : (a.modify id f).children x = a.children x := by
  rw [children, children, modify, Array.getElem?_modify]
  split
  · rw [Option.map_map]
    exact congrArg (fun g => (Option.map g _).getD #[]) (funext keeps)
  · rfl

theorem children_modify_of_ne (a : Arena) {id x : Nat} (different : x ≠ id) (f : Item → Item) :
    (a.modify id f).children x = a.children x := by
  rw [children, children, modify, Array.getElem?_modify, if_neg different.symm]

/-- An item that is there. -/
theorem exists_item {id : Nat} (present : (a.kind? id).isSome) :
    ∃ item, a.items[id]? = some item := by
  rw [kind?, Option.isSome_map] at present
  exact Option.isSome_iff_exists.mp present

theorem children_modify_self {id : Nat} (present : (a.kind? id).isSome)
    (f : Array Nat → Array Nat) :
    (a.modify id fun i => { i with children := f i.children }).children id = f (a.children id) := by
  rcases exists_item present with ⟨item, atId⟩
  rw [children, children, modify, Array.getElem?_modify, if_pos rfl, atId]
  rfl

theorem parent?_modify_parent {id : Nat} (present : (a.kind? id).isSome) (p : Option Nat) (x : Nat) :
    (a.modify id fun i => { i with parent := p }).parent? x = if x = id then p else a.parent? x := by
  rcases exists_item present with ⟨item, atId⟩
  rw [parent?, parent?, modify, Array.getElem?_modify]
  by_cases same : x = id
  · subst same
    rw [if_pos rfl, if_pos rfl, atId]
    rfl
  · rw [if_neg (Ne.symm same), if_neg same]

theorem kind?_detach (a : Arena) (id x : Nat) : (a.detach id).kind? x = a.kind? x := by
  rw [detach]
  split
  · rfl
  · rw [kind?_modify, kind?_modify] <;> exact fun _ => rfl

theorem isSome_kind?_of_parent? {id p : Nat} (isParent : a.parent? id = some p) :
    (a.kind? id).isSome := by
  rcases Option.bind_eq_some_iff.mp isParent with ⟨item, atId, -⟩
  rw [kind?, atId]
  rfl

theorem parent?_detach (a : Arena) (id x : Nat) :
    (a.detach id).parent? x = if x = id then none else a.parent? x := by
  rw [detach]
  split
  · next noParent =>
      split
      · next same =>
          rw [same, noParent]
      · rfl
  · next p isParent =>
      rw [parent?_modify_parent, parent?_modify]
      · exact fun _ => rfl
      · rw [kind?_modify]
        · exact isSome_kind?_of_parent? isParent
        · exact fun _ => rfl

theorem children_detach (a : Arena) (id x : Nat) :
    (a.detach id).children x =
      if a.parent? id = some x then (a.children x).filter (· != id) else a.children x := by
  rw [detach]
  split
  · next noParent =>
      rw [noParent, if_neg (by rintro ⟨⟩)]
  · next p isParent =>
      rw [isParent, children_modify]
      · by_cases same : p = x
        · subst same
          rw [if_pos rfl]
          by_cases present : (a.kind? p).isSome
          · exact children_modify_self present (·.filter (· != id))
          · have absent : a.items[p]? = none := by
              rwa [kind?, Option.isSome_map, Option.not_isSome_iff_eq_none] at present
            rw [children, children, modify, Array.getElem?_modify, if_pos rfl, absent]
            rfl
        · rw [if_neg fun equal => same (Option.some.inj equal),
            children_modify_of_ne a (Ne.symm same)]
      · exact fun _ => rfl

/-- Whether a tree differs from another in that an item hangs below `p`. -/
structure Hangs (a a' : Arena) (p id : Nat) : Prop where
  kinds : ∀ x, a'.kind? x = a.kind? x
  parents : ∀ x, a'.parent? x = if x = id then some p else a.parent? x
  inside : ∀ x, x ∈ a'.children p ↔ x = id ∨ x ∈ a.children p
  outside : ∀ y, y ≠ p → a'.children y = (a.detach id).children y

theorem mem_children_detach_or {id p x : Nat} :
    x = id ∨ x ∈ (a.detach id).children p ↔ x = id ∨ x ∈ a.children p := by
  rw [children_detach]
  split
  · rw [Array.mem_filter, bne_iff_ne]
    by_cases same : x = id <;> simp [same]
  · rfl

/-- An item hangs below `p` when it has left its old parent, the children of `p` have changed to
those there were and the item, and `p` has become its parent. -/
theorem hangs_of_children {p id : Nat} (target : (a.kind? p).isSome) (present : (a.kind? id).isSome)
    (f : Array Nat → Array Nat)
    (adds : ∀ x, x ∈ f ((a.detach id).children p) ↔ x = id ∨ x ∈ (a.detach id).children p) :
    Hangs a (((a.detach id).modify p fun i => { i with children := f i.children }).modify id
      fun i => { i with parent := some p }) p id where
  kinds x := by
    rw [kind?_modify, kind?_modify, kind?_detach] <;> exact fun _ => rfl
  parents x := by
    rw [parent?_modify_parent, parent?_modify, parent?_detach]
    · split <;> rfl
    · exact fun _ => rfl
    · rw [kind?_modify, kind?_detach]
      · exact present
      · exact fun _ => rfl
  inside x := by
    have detached : ((a.detach id).kind? p).isSome := by rwa [kind?_detach]
    rw [children_modify, children_modify_self detached, adds, mem_children_detach_or]
    exact fun _ => rfl
  outside y elsewhere := by
    rw [children_modify, children_modify_of_ne _ elsewhere]
    exact fun _ => rfl

theorem children_append_self {p : Nat} (target : (a.kind? p).isSome) (id : Nat) :
    (a.append p id).children p = ((a.detach id).children p).push id := by
  rw [append, children_modify]
  · rw [← kind?_detach a id] at target
    exact children_modify_self target (·.push id)
  · exact fun _ => rfl

theorem hangs_append {p id : Nat} (target : (a.kind? p).isSome) (present : (a.kind? id).isSome) :
    Hangs a (a.append p id) p id := by
  apply hangs_of_children target present (·.push id)
  intro x
  rw [Array.mem_push, or_comm]

/-- The items of a list when `id` has been put in front of one of them. -/
theorem mem_insertedBefore {sibling id x : Nat} {items : Array Nat} (among : sibling ∈ items) :
    x ∈ (items.toList.flatMap fun c => if c = sibling then [id, c] else [c]).toArray ↔
      x = id ∨ x ∈ items := by
  rw [List.mem_toArray, List.mem_flatMap]
  constructor
  · rintro ⟨c, member, listed⟩
    split at listed
    · rcases List.mem_cons.mp listed with same | same
      · exact Or.inl same
      · rw [List.mem_singleton.mp same]
        exact Or.inr (Array.mem_toList_iff.mp member)
    · rw [List.mem_singleton.mp listed]
      exact Or.inr (Array.mem_toList_iff.mp member)
  · rintro (rfl | member)
    · exact ⟨sibling, Array.mem_toList_iff.mpr among, by simp⟩
    · refine ⟨x, Array.mem_toList_iff.mpr member, ?_⟩
      split <;> simp

theorem hangs_insertBefore {sibling id p : Nat} (present : (a.kind? id).isSome)
    (isParent : (a.detach id).parent? sibling = some p)
    (among : sibling ∈ (a.detach id).children p) : Hangs a (a.insertBefore sibling id) p id := by
  have target : (a.kind? p).isSome := by
    rw [← kind?_detach a id, kind?, Option.isSome_map, Option.isSome_iff_ne_none]
    intro absent
    rw [children, absent] at among
    simp at among
  have result : a.insertBefore sibling id =
      ((a.detach id).modify p fun i => { i with
        children := (((a.detach id).children p).toList.flatMap fun c =>
          if c = sibling then [id, c] else [c]).toArray }).modify id
        fun i => { i with parent := some p } := by
    rw [insertBefore, isParent]
  rw [result]
  apply hangs_of_children target present fun _ => _
  intro x
  exact mem_insertedBefore among

theorem kind?_add (a : Arena) (kind : ItemKind) (x : Nat) :
    (a.add kind).1.kind? x = if x = a.items.size then some kind else a.kind? x := by
  rw [add, kind?, Array.getElem?_push]
  split <;> rfl

theorem kind?_size (a : Arena) : a.kind? a.items.size = none := by
  rw [kind?, Array.getElem?_eq_none (Nat.le_refl _)]
  rfl

theorem parent?_add (a : Arena) (kind : ItemKind) (x : Nat) :
    (a.add kind).1.parent? x = a.parent? x := by
  rw [add, parent?, parent?, Array.getElem?_push]
  split
  · next new =>
      rw [new, Array.getElem?_eq_none (Nat.le_refl _)]
      rfl
  · rfl

theorem children_add (a : Arena) (kind : ItemKind) (x : Nat) :
    (a.add kind).1.children x = a.children x := by
  rw [add, children, children, Array.getElem?_push]
  split
  · next new =>
      rw [new, Array.getElem?_eq_none (Nat.le_refl _)]
      rfl
  · rfl

theorem kind?_add_of_some {kind old : ItemKind} {x : Nat} (isKind : a.kind? x = some old) :
    (a.add kind).1.kind? x = some old := by
  rw [kind?_add, if_neg]
  · exact isKind
  · rintro rfl
    rw [kind?_size] at isKind
    cases isKind

theorem kind?_new (a : Arena) (kind : ItemKind) :
    (a.add kind).1.kind? (a.add kind).2 = some kind := by
  rw [kind?_add]
  exact if_pos rfl

theorem isText_eq_true_iff {id : Nat} : a.isText id = true ↔ ∃ text, a.kind? id = some (.text text) := by
  rw [isText]
  split
  · next text isKind =>
      exact iff_of_true rfl ⟨text, isKind⟩
  · next other =>
      exact iff_of_false Bool.false_ne_true fun ⟨text, isKind⟩ => other text isKind

theorem children_lengthen (a : Arena) (id : Nat) (text : String) (x : Nat) :
    (a.lengthen id text).children x = a.children x := by
  rw [lengthen, children_modify]
  intro i
  split <;> rfl

theorem parent?_lengthen (a : Arena) (id : Nat) (text : String) (x : Nat) :
    (a.lengthen id text).parent? x = a.parent? x := by
  rw [lengthen, parent?_modify]
  intro i
  split <;> rfl

theorem kind?_lengthen_of_ne (a : Arena) {id x : Nat} (different : x ≠ id) (text : String) :
    (a.lengthen id text).kind? x = a.kind? x := by
  rw [lengthen, kind?, kind?, modify, Array.getElem?_modify, if_neg (Ne.symm different)]

theorem kind?_lengthen_self {id : Nat} {old : String} (isText : a.kind? id = some (.text old))
    (text : String) : (a.lengthen id text).kind? id = some (.text (old ++ text)) := by
  rcases Option.map_eq_some_iff.mp isText with ⟨item, atId, isKind⟩
  rw [lengthen, kind?, modify, Array.getElem?_modify, if_pos rfl, atId]
  simp only [Option.map_some, isKind]

theorem exists_of_previous? {sibling last : Nat} (isPrevious : a.previous? sibling = some last) :
    ∃ p, a.parent? sibling = some p ∧ last ∈ a.children p := by
  rw [previous?] at isPrevious
  cases isParent : a.parent? sibling with
  | none =>
      rw [isParent] at isPrevious
      cases isPrevious
  | some p =>
      rw [isParent] at isPrevious
      have listed := List.mem_of_getLast? isPrevious
      exact ⟨p, rfl, Array.mem_toList_iff.mp ((List.takeWhile_sublist _).subset listed)⟩

/-- Change the attributes of an element. -/
def modifyAttrs (f : Dict String → Dict String) (i : Item) : Item :=
  match i.kind with
  | .element vocabulary name attrs => { i with kind := .element vocabulary name (f attrs) }
  | _ => i

/-- An item keeps its kind, or is an element of one name before and after. -/
theorem kind?_modifyAttrs (a : Arena) (id : Nat) (f : Dict String → Dict String) (x : Nat) :
    (a.modify id (modifyAttrs f)).kind? x = a.kind? x ∨ ∃ vocabulary name attrs,
      a.kind? x = some (.element vocabulary name attrs) ∧
      (a.modify id (modifyAttrs f)).kind? x = some (.element vocabulary name (f attrs)) := by
  by_cases same : id = x
  · subst same
    cases atId : a.items[id]? with
    | none =>
        refine Or.inl ?_
        rw [kind?, kind?, modify, Array.getElem?_modify, if_pos rfl, atId]
        rfl
    | some item =>
        rw [kind?, kind?, modify, Array.getElem?_modify, if_pos rfl, atId, Option.map_some,
          Option.map_some, Option.map_some, modifyAttrs]
        split
        · next vocabulary name attrs isElement =>
            exact Or.inr ⟨vocabulary, name, attrs, congrArg some isElement, rfl⟩
        · exact Or.inl rfl
  · refine Or.inl ?_
    rw [kind?, kind?, modify, Array.getElem?_modify, if_neg same]

theorem children_modifyAttrs (a : Arena) (id : Nat) (f : Dict String → Dict String) (x : Nat) :
    (a.modify id (modifyAttrs f)).children x = a.children x := by
  rw [children_modify]
  intro i
  rw [modifyAttrs]
  split <;> rfl

theorem parent?_modifyAttrs (a : Arena) (id : Nat) (f : Dict String → Dict String) (x : Nat) :
    (a.modify id (modifyAttrs f)).parent? x = a.parent? x := by
  rw [parent?_modify]
  intro i
  rw [modifyAttrs]
  split <;> rfl

end Arena

end Markup
end Folio
