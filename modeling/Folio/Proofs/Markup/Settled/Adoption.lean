import Folio.Proofs.Markup.Settled.State

namespace Folio
namespace Markup
namespace Construction

open Std.Do

set_option mvcgen.warning false

/-!
# Misnested formatting between text elements

Taking a formatting element apart moves open elements and makes copies of remembered ones.  Neither
are text elements, and so construction stays settled.
-/

theorem FormatsPlainly.of_remembered? {entries : List FormatEntry} (plain : FormatsPlainly entries)
    {id : Nat} {tag : Tag} (found : remembered? id entries = some tag) : tag.name ∉ textTags := by
  induction entries with
  | nil => cases found
  | cons entry entries inductionHypothesis =>
      have later : FormatsPlainly entries := fun x other member =>
        plain x other (List.mem_cons_of_mem entry member)
      cases entry with
      | marker => exact inductionHypothesis later found
      | element x other =>
          rw [remembered?] at found
          split at found
          · cases found
            exact plain x tag List.mem_cons_self
          · exact inductionHypothesis later found

theorem FormatsPlainly.replaceEntry {entries : List FormatEntry} (plain : FormatsPlainly entries)
    (old new : Nat) : FormatsPlainly (replaceEntry old new entries) := by
  intro x tag member
  rcases List.mem_map.mp member with ⟨entry, among, same⟩
  cases entry with
  | marker => cases same
  | element i other =>
      dsimp only at same
      split at same
      · cases same
        exact plain i tag among
      · cases same
        exact plain x tag among

theorem FormatsPlainly.insertNewer {entries : List FormatEntry} (plain : FormatsPlainly entries)
    (neighbour new : Nat) {tag : Tag} (name : tag.name ∉ textTags) :
    FormatsPlainly (insertNewer neighbour new tag entries) := by
  induction entries with
  | nil => exact plain
  | cons entry entries inductionHypothesis =>
      have later := inductionHypothesis fun x other member =>
        plain x other (List.mem_cons_of_mem entry member)
      cases entry with
      | marker =>
          intro x other member
          rcases List.mem_cons.mp member with impossible | member
          · cases impossible
          · exact later x other member
      | element i first =>
          rw [Construction.insertNewer]
          split
          · exact plain.cons name new
          · exact later.cons (plain i first List.mem_cons_self) i

/-- Which elements are remembered once the copy takes the place of the formatting element. -/
theorem FormatsPlainly.adopt {entries : List FormatEntry} (plain : FormatsPlainly entries)
    (neighbour : Option Nat) (formatting copy : Nat) {tag : Tag} (name : tag.name ∉ textTags) :
    FormatsPlainly (match neighbour with
      | none => Construction.replaceEntry formatting copy entries
      | some neighbour =>
        Construction.forget formatting (Construction.insertNewer neighbour copy tag entries)) := by
  cases neighbour with
  | none => exact plain.replaceEntry formatting copy
  | some neighbour => exact (plain.insertNewer neighbour copy name).forget formatting

/-- Of the remembered elements with a name none is a text element. -/
theorem FormatsPlainly.of_find? {entries : List FormatEntry} (plain : FormatsPlainly entries)
    {p : Nat × Tag → Bool} {e : Nat × Tag} (found : (recentFormatting entries).find? p = some e) :
    e.2.name ∉ textTags :=
  plain e.1 e.2 (mem_of_mem_recentFormatting (List.mem_of_find?_eq_some found))

variable [Arena.FollowedTexts]

/-- An element that may hold nodes can be made. -/
theorem Makes.canHold {tag : Tag} {c c' : Construction} {id : Nat} (makes : Makes .page tag c id c')
    (plain : tag.name ∉ textTags) : c'.arena.CanHold id :=
  ⟨_, makes.kind, by simp [ItemKind.canHold, plain]⟩

/-- What may hold nodes can be hung below what may hold nodes. -/
theorem IsSettled.rearranges_append {c : Construction} (settled : c.IsSettled) {p id : Nat}
    (target : c.arena.CanHold p) (moved : c.arena.CanHold id) :
    c.arena.Rearranges none (c.arena.append p id) :=
  settled.arena.append target moved.isSome (settled.arena.isLoose moved)

/-- A remembered element may be forgotten. -/
theorem IsSettled.forget {c : Construction} (settled : c.IsSettled) (id : Nat) :
    { c with formatting := Construction.forget id c.formatting }.IsSettled :=
  { settled with formatting := settled.formatting.forget id }

/-- An open element may be left and forgotten. -/
@[grind .]
theorem IsSettled.discard {c : Construction} (settled : c.IsSettled) (id : Nat) :
    { c with
      formatting := Construction.forget id c.formatting
      stack := c.stack.filter (· != id) }.IsSettled :=
  (settled.leaveAmong _).forget id

/-- One step of the walk, which leaves an open element or puts a copy in its place. -/
theorem climb_cons (block count node : Nat) (nodes : List Nat) (r : Climb) {c : Construction}
    (settled : c.IsSettled) (holds : c.arena.CanHold r.last) :
    ∃ (r' : Climb) (c' : Construction), c'.IsSettled ∧ c'.arena.CanHold r'.last ∧
      c.arena.Admits c'.arena ∧
      (climb block count (node :: nodes) r).run c =
        (climb block (count + 1) nodes r').run c' := by
  cases found : remembered? node c.formatting with
  | none =>
      refine ⟨r, { c with stack := c.stack.filter (· != node) }, settled.leaveAmong _, holds,
        fun _ holds => holds, ?_⟩
      rw [climb]
      simp [found]
  | some tag =>
      by_cases late : 3 ≤ count
      · refine ⟨r, { c with
          formatting := forget node c.formatting, stack := c.stack.filter (· != node) },
          settled.discard node, holds, fun _ holds => holds, ?_⟩
        rw [climb]
        simp [found, late]
      · have makes := makes_makeElement .page tag settled
        have copyHolds := makes.canHold (settled.formatting.of_remembered? found)
        have step := makes.settled.rearranges_append copyHolds (makes.admits _ holds)
        have hung := makes.settled.follow step.follows
        generalize result : (makeElement .page tag).run c = made at *
        refine ⟨⟨made.1, if r.last = block then some made.1 else r.neighbour⟩, { made.2 with
          formatting := replaceEntry node made.1 made.2.formatting
          stack := made.2.stack.map fun id => if id = node then made.1 else id
          arena := made.2.arena.append made.1 r.last }, ?_, step.admits _ copyHolds,
          fun id holds => step.admits id (makes.admits id holds), ?_⟩
        · refine { hung with formatting := hung.formatting.replaceEntry node _, stack := ?_ }
          intro id member
          rcases List.mem_map.mp member with ⟨old, among, same⟩
          split at same
          · exact same ▸ step.admits _ copyHolds
          · exact same ▸ hung.stack old among
        · rw [climb]
          simp only [StateT.run_bind, StateT.run_get, pure_bind, found, if_neg late, result]
          rfl

/-- The walk moves only what may hold nodes, and what it has moved last may do so. -/
theorem climb_spec (block count : Nat) (nodes : List Nat) (r : Climb) {c : Construction}
    (settled : c.IsSettled) (holds : c.arena.CanHold r.last) :
    ((climb block count nodes r).run c).2.IsSettled ∧
      ((climb block count nodes r).run c).2.arena.CanHold ((climb block count nodes r).run c).1.last ∧
      c.arena.Admits ((climb block count nodes r).run c).2.arena := by
  induction nodes generalizing count r c with
  | nil => exact ⟨settled, holds, fun _ holds => holds⟩
  | cons node nodes inductionHypothesis =>
      rcases climb_cons block count node nodes r settled holds with
        ⟨r', c', settledNow, holdsNow, admits, result⟩
      have later := inductionHypothesis (count + 1) r' settledNow holdsNow
      rw [result]
      exact ⟨later.1, later.2.1, fun id holds => later.2.2 id (admits id holds)⟩

/-! ## Taking a formatting element apart -/

/-- What the walk has moved last is put where the formatting element stands. -/
theorem IsSettled.follows_put_detach {c : Construction} (settled : c.IsSettled) {id target : Nat}
    (holds : c.arena.CanHold id) (targetHolds : c.arena.CanHold target) :
    c.arena.Follows none (put (c.arena.detach id) id (c.placeFor target)) := by
  have taken := settled.arena.rearranges_detach (settled.arena.isLoose holds)
  have holdsNow := taken.admits id holds
  have fits := (settled.fitsIn_placeFor targetHolds).of_admits taken.admits
  have step := taken.trans (fits.put taken.sound holdsNow.isSome (taken.sound.isLoose holdsNow))
  exact step.follows

/-- What a block holds is moved into a copy, which is then all that the block holds. -/
theorem IsSettled.rearranges_wrap {c : Construction} (settled : c.IsSettled) {block copy : Nat}
    (blockHolds : c.arena.CanHold block) (copyHolds : c.arena.CanHold copy) :
    c.arena.Rearranges none ((c.arena.moveChildren block copy).append block copy) := by
  have emptied := settled.arena.moveChildren blockHolds copyHolds
  have copyHoldsNow := emptied.admits copy copyHolds
  exact emptied.trans (emptied.sound.append (emptied.admits block blockHolds) copyHoldsNow.isSome
    (emptied.sound.isLoose copyHoldsNow))

theorem adoptBlock_spec (formatting block : Nat) {tag : Tag} (plain : tag.name ∉ textTags)
    (between : List Nat) (ancestor : Nat) {c : Construction} (settled : c.IsSettled)
    (blockHolds : c.arena.CanHold block) (ancestorHolds : c.arena.CanHold ancestor) :
    ((adoptBlock formatting block tag between ancestor).run c).2.IsSettled := by
  have walk := climb_spec block 0 between ⟨block, none⟩ settled blockHolds
  rw [adoptBlock, StateT.run_bind]
  generalize (climb block 0 between ⟨block, none⟩).run c = walked at *
  rcases walk with ⟨walkedSettled, lastHolds, walkAdmits⟩
  have follows := walkedSettled.follows_put_detach lastHolds (walkAdmits _ ancestorHolds)
  have moved := walkedSettled.follow follows
  have makes := makes_makeElement .page tag moved
  have copyHolds := makes.canHold plain
  have wrapped := makes.settled.rearranges_wrap
    (makes.admits _ (follows.admits _ (walkAdmits _ blockHolds))) copyHolds
  have hung := makes.settled.follow wrapped.follows
  refine { hung with
    formatting := hung.formatting.adopt walked.1.neighbour formatting _ plain
    stack := ?_ }
  intro id member
  rcases List.mem_flatMap.mp member with ⟨old, among, listed⟩
  have oldHolds := hung.stack old (List.mem_of_mem_filter among)
  split at listed
  · rcases List.mem_cons.mp listed with rfl | listed
    · exact wrapped.admits _ copyHolds
    · exact List.mem_singleton.mp listed ▸ oldHolds
  · exact List.mem_singleton.mp listed ▸ oldHolds

@[spec]
theorem settles_endOther (name : String) : Settles (endOther name) := by
  mvcgen [endOther] with grind

@[spec]
theorem settles_adoptOnce (name : String) : Settles (adoptOnce name) := by
  apply triple_of_run
  intro c settled
  rw [adoptOnce]
  simp only [StateT.run_bind, StateT.run_get, pure_bind]
  cases found : (recentFormatting c.formatting).find? fun e => e.2.name == name with
  | none => exact run_of_triple (settles_endOther name) settled
  | some e =>
      have plain := settled.formatting.of_find? found
      dsimp only
      split
      · exact settled.forget e.1
      · split
        · exact settled
        · split
          · exact (settled.leaveThrough _).forget e.1
          · next block isBlock =>
              have opened : block ∈ c.stack := (List.takeWhile_sublist _).subset
                (List.mem_of_mem_filter (List.mem_of_getLast? isBlock))
              apply adoptBlock_spec e.1 block plain _ _ settled (settled.stack block opened)
              apply settled.canHold_getD
              exact fun id isHead => (List.dropWhile_sublist _).subset
                (List.mem_of_mem_drop (List.mem_of_head? isHead))

theorem settles_adoptRounds (name : String) (rounds : Nat) : Settles (adoptRounds name rounds) := by
  induction rounds with
  | zero => exact triple_of_run fun _ settled => settled
  | succ rounds inductionHypothesis => mvcgen [adoptRounds, inductionHypothesis]

@[spec]
theorem settles_endFormatting (name : String) : Settles (endFormatting name) := by
  mvcgen [endFormatting, settles_adoptRounds]

end Construction
end Markup
end Folio
