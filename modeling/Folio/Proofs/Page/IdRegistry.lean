import Folio.Page.Anchor
import Mathlib.Data.List.Nodup
import Mathlib.Data.List.Perm.Subperm

namespace Folio

/-!
# The registry of identifiers

Taking an identifier never gives out one that is in use.  A candidate that is free is taken as it
is; else the least number that makes it free is put behind it.  Such a number is found among as many
as there are identifiers in use and one more, since different numbers give different identifiers.

Along a list of candidates one identifier more in use displaces one identifier at a time: whoever
would have had it gets another one, which is the extra one from then on.
-/

namespace IdRegistry

variable (r : IdRegistry)

theorem contains_eq_true_iff {id : String} : r.contains id = true ↔ id ∈ r.ids :=
  List.contains_iff_mem

theorem mem_register_iff {id other : String} :
    other ∈ (r.register id).ids ↔ other = id ∨ other ∈ r.ids := by
  rw [register]
  by_cases taken : id ∈ r.ids
  · rw [dif_pos taken]
    constructor
    · exact Or.inr
    · rintro (rfl | member)
      · exact taken
      · exact member
  · rw [dif_neg taken]
    exact List.mem_cons

/-- Registering a list of identifiers adds these and drops none. -/
theorem mem_foldl_register_iff {ids : List String} {other : String} :
    other ∈ (ids.foldl register r).ids ↔ other ∈ ids ∨ other ∈ r.ids := by
  induction ids generalizing r with
  | nil => simp
  | cons id ids inductionHypothesis =>
      rw [List.foldl_cons, inductionHypothesis, mem_register_iff, List.mem_cons]
      constructor
      · rintro (member | same | member)
        · exact Or.inl (Or.inr member)
        · exact Or.inl (Or.inl same)
        · exact Or.inr member
      · rintro ((same | member) | member)
        · exact Or.inr (Or.inl same)
        · exact Or.inl member
        · exact Or.inr (Or.inr member)

theorem numbered_injective (candidate : String) : Function.Injective (numbered candidate) := by
  intro first second equal
  have digits : Nat.toDigits 10 first = Nat.toDigits 10 second := by
    simpa [numbered, ← String.toList_inj, Nat.toString_eq_ofList_toDigits] using equal
  have read := Nat.ofDigitChars_ten_toDigits (n := first)
  rw [digits, Nat.ofDigitChars_ten_toDigits] at read
  exact read.symm

theorem numbered_ne_empty (candidate : String) (n : Nat) : numbered candidate n ≠ "" := by
  intro empty
  have texts := congrArg String.toList empty
  simp [numbered] at texts

/-- Of as many numbers as there are identifiers, and one more, one makes a candidate free. -/
theorem exists_numbered_not_mem (candidate : String) :
    ∃ n ≤ r.size, numbered candidate n ∉ r.ids := by
  apply Classical.byContradiction
  intro none
  have taken : (List.range (r.size + 1)).map (numbered candidate) ⊆ r.ids := by
    intro id member
    rcases List.mem_map.mp member with ⟨n, inRange, rfl⟩
    apply Classical.byContradiction
    intro free
    exact none ⟨n, Nat.le_of_lt_succ (List.mem_range.mp inRange), free⟩
  have different : ((List.range (r.size + 1)).map (numbered candidate)).Nodup :=
    List.nodup_range.map (numbered_injective candidate)
  have tooMany := (different.subperm taken).length_le
  rw [List.length_map, List.length_range, size] at tooMany
  exact Nat.not_succ_le_self _ tooMany

/-- What is given out for a candidate: the candidate if it is free, and else the candidate with the
least number that makes it free. -/
theorem unique_spec (candidate : String) :
    (candidate ∉ r.ids ∧ r.unique candidate = candidate) ∨
      (candidate ∈ r.ids ∧ ∃ n ≤ r.size, r.unique candidate = numbered candidate n ∧
        numbered candidate n ∉ r.ids ∧ ∀ m < n, numbered candidate m ∈ r.ids) := by
  by_cases taken : candidate ∈ r.ids
  · refine Or.inr ⟨taken, ?_⟩
    rw [unique, if_pos ((contains_eq_true_iff r).mpr taken)]
    cases found : ((List.range (r.size + 1)).map (numbered candidate)).find?
        (!r.contains ·) with
    | none =>
        -- The search cannot come back empty: one number in its range is free.
        rcases r.exists_numbered_not_mem candidate with ⟨n, small, free⟩
        have listed : numbered candidate n ∈ (List.range (r.size + 1)).map (numbered candidate) :=
          List.mem_map_of_mem (List.mem_range.mpr (Nat.lt_succ_of_le small))
        have contained := List.find?_eq_none.mp found _ listed
        rw [Bool.not_eq_true, Bool.not_eq_false', contains_eq_true_iff] at contained
        exact absurd contained free
    | some id =>
        rcases List.find?_eq_some_iff_getElem.mp found with ⟨isFree, n, bound, atPlace, before⟩
        rw [List.length_map, List.length_range] at bound
        simp only [List.getElem_map, List.getElem_range] at atPlace before
        refine ⟨n, Nat.le_of_lt_succ bound, atPlace.symm, ?_, ?_⟩
        · rw [atPlace, ← contains_eq_true_iff, Bool.not_eq_true, ← Bool.not_eq_true']
          exact isFree
        · intro m less
          have contained := before m less
          rwa [Bool.not_not, contains_eq_true_iff] at contained
  · refine Or.inl ⟨taken, ?_⟩
    rw [unique, if_neg]
    rw [contains_eq_true_iff]
    exact taken

theorem unique_of_not_mem {candidate : String} (free : candidate ∉ r.ids) :
    r.unique candidate = candidate := by
  rcases r.unique_spec candidate with ⟨-, equal⟩ | ⟨taken, -⟩
  · exact equal
  · exact absurd taken free

theorem unique_not_mem (candidate : String) : r.unique candidate ∉ r.ids := by
  rcases r.unique_spec candidate with ⟨free, equal⟩ | ⟨-, n, -, equal, free, -⟩
  · exact equal.symm ▸ free
  · exact equal.symm ▸ free

theorem unique_ne_empty {candidate : String} (nonempty : candidate ≠ "") :
    r.unique candidate ≠ "" := by
  rcases r.unique_spec candidate with ⟨-, equal⟩ | ⟨-, n, -, equal, -, -⟩
  · exact equal.symm ▸ nonempty
  · exact equal.symm ▸ numbered_ne_empty candidate n

/-! ## One identifier more in use -/

theorem unique_eq_numbered {candidate : String} {n : Nat} (taken : candidate ∈ r.ids)
    (free : numbered candidate n ∉ r.ids) (least : ∀ m < n, numbered candidate m ∈ r.ids) :
    r.unique candidate = numbered candidate n := by
  rcases r.unique_spec candidate with ⟨isFree, -⟩ | ⟨-, k, -, equal, isFree, before⟩
  · exact absurd taken isFree
  · rcases Nat.lt_trichotomy k n with less | same | greater
    · exact absurd (least k less) isFree
    · rw [equal, same]
    · exact absurd (before n greater) free

/-- What is given out along a list of candidates, one after the other. -/
def allot : IdRegistry → List String → List String
  | _, [] => []
  | r, candidate :: candidates =>
    r.unique candidate :: allot (r.register (r.unique candidate)) candidates

/-- Whether a registry holds one identifier that another does not hold, and all that it holds. -/
structure HasExtra (r r' : IdRegistry) (extra : String) : Prop where
  free : extra ∉ r.ids
  mem_iff : ∀ id, id ∈ r'.ids ↔ id = extra ∨ id ∈ r.ids

namespace HasExtra

variable {r r' : IdRegistry} {extra candidate : String} (has : HasExtra r r' extra)

include has

/-- A candidate that is not answered with the extra identifier is answered as if that were free. -/
theorem unique_eq (different : r.unique candidate ≠ extra) :
    r'.unique candidate = r.unique candidate := by
  have untaken : ∀ id, id ∉ r.ids → id ≠ extra → id ∉ r'.ids := by
    intro id absent other
    rw [has.mem_iff, not_or]
    exact ⟨other, absent⟩
  have kept : ∀ id ∈ r.ids, id ∈ r'.ids := fun id inUse => (has.mem_iff id).mpr (Or.inr inUse)
  rcases r.unique_spec candidate with ⟨free, equal⟩ | ⟨taken, n, -, equal, free, before⟩
  · rw [equal] at different ⊢
    exact unique_of_not_mem r' (untaken candidate free different)
  · rw [equal] at different ⊢
    exact unique_eq_numbered r' (kept candidate taken) (untaken _ free different)
      fun m less => kept _ (before m less)

/-- Taking another free identifier keeps the extra one. -/
theorem register {id : String} (different : id ≠ extra) :
    HasExtra (r.register id) (r'.register id) extra := by
  constructor
  · rw [mem_register_iff, not_or]
    exact ⟨different.symm, has.free⟩
  · intro other
    rw [mem_register_iff, mem_register_iff, has.mem_iff, or_left_comm]

/-- Where the extra identifier is given out, another one is given out for it beside, which is extra
from then on. -/
theorem displace (candidate : String) :
    HasExtra (r.register extra) (r'.register (r'.unique candidate)) (r'.unique candidate) := by
  have free : r'.unique candidate ∉ r'.ids := r'.unique_not_mem candidate
  constructor
  · rw [mem_register_iff, ← has.mem_iff]
    exact free
  · intro other
    rw [mem_register_iff, mem_register_iff, has.mem_iff]

/-- Along a list of candidates to which the extra identifier is not given, it makes no difference. -/
theorem allot_eq {candidates : List String} (absent : extra ∉ r.allot candidates) :
    r'.allot candidates = r.allot candidates := by
  induction candidates generalizing r r' with
  | nil => rfl
  | cons candidate candidates inductionHypothesis =>
      rw [allot, List.mem_cons, not_or] at absent
      rw [allot, allot, has.unique_eq (Ne.symm absent.1),
        inductionHypothesis (has.register (Ne.symm absent.1)) absent.2]

/-- An identifier more in use takes none away: what is given out without it is given out with it
too, if it is not itself the extra one. -/
theorem mem_allot {candidates : List String} {id : String} (member : id ∈ r.allot candidates) :
    id = extra ∨ id ∈ r'.allot candidates := by
  induction candidates generalizing r r' extra with
  | nil => cases member
  | cons candidate candidates inductionHypothesis =>
      rw [allot] at member ⊢
      by_cases same : r.unique candidate = extra
      · -- From here on it is the identifier given out in its place that is extra.
        rw [same] at member
        rcases List.mem_cons.mp member with isExtra | later
        · exact Or.inl isExtra
        · rcases inductionHypothesis (has.displace candidate) later with isNext | later'
          · exact Or.inr (isNext ▸ List.mem_cons_self)
          · exact Or.inr (List.mem_cons_of_mem _ later')
      · rw [has.unique_eq same]
        rcases List.mem_cons.mp member with here | later
        · exact Or.inr (here ▸ List.mem_cons_self)
        · rcases inductionHypothesis (has.register same) later with isExtra | later'
          · exact Or.inl isExtra
          · exact Or.inr (List.mem_cons_of_mem _ later')

end HasExtra

theorem hasExtra_register {id : String} (free : id ∉ r.ids) : HasExtra r (r.register id) id :=
  ⟨free, fun _ => mem_register_iff r⟩

end IdRegistry

end Folio
