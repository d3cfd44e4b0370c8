import Folio.Proofs.Page.IdRegistry
import Mathlib.Data.List.Nodup

namespace Folio

open Markup

/-!
# Runs of the registry

A page asks its registry for one thing after the other: to take an identifier that stands in the
page, to tell whether an identifier is in use, to find one for a candidate, or to give one to an
element.  A run is told by its turns, each with the registry before it and after it.  What a turn
does is said once.  Since later turns begin with all that earlier turns have left, no identifier is
given out twice, and none that was reserved is given out.
-/

/-- What a registry is asked for. -/
inductive RegistryRequest where
  | reserve (id : String)
  | contains (id : String)
  | makeUnique (candidate : String)
  | assign (e : Element) (scope : Option String)

inductive RegistryAnswer where
  | told (yes : Bool)
  | given (id : String)
  | assigned (e : Element)

/-- The candidate of a request that is answered with an identifier. -/
def RegistryRequest.candidate? : RegistryRequest → Option String
  | .reserve _ | .contains _ => none
  | .makeUnique candidate => some candidate
  | .assign e scope => some (anchorCandidate e scope)

/-- The identifier that an answer gives out. -/
def RegistryAnswer.id? : RegistryAnswer → Option String
  | .told _ => none
  | .given id => some id
  | .assigned e => e.attr? "id"

/-- One request, its answer, and the registry before and after. -/
structure RegistryTurn where
  before : IdRegistry
  request : RegistryRequest
  answer : RegistryAnswer
  after : IdRegistry

namespace IdRegistry

def serve (r : IdRegistry) : RegistryRequest → RegistryAnswer × IdRegistry
  | .reserve id => (.told (r.reserve id).1, (r.reserve id).2)
  | .contains id => (.told (r.contains id), r)
  | .makeUnique candidate => (.given (r.makeUnique candidate).1, (r.makeUnique candidate).2)
  | .assign e scope => (.assigned (r.assign e scope).1, (r.assign e scope).2)

def turn (r : IdRegistry) (request : RegistryRequest) : RegistryTurn :=
  ⟨r, request, (r.serve request).1, (r.serve request).2⟩

/-- The turns of a run, each with the registry that those before it have left. -/
def turns : IdRegistry → List RegistryRequest → List RegistryTurn
  | _, [] => []
  | r, request :: requests => r.turn request :: turns (r.serve request).2 requests

/-- The registry that a run leaves. -/
def serveAll (r : IdRegistry) (requests : List RegistryRequest) : IdRegistry :=
  requests.foldl (fun r request => (r.serve request).2) r

/-- What is to be given out for a candidate: the candidate if it is free, and else the candidate
with the least number that makes it free, which is no larger than the number of identifiers in
use. -/
def IsLeastFree (r : IdRegistry) (candidate id : String) : Prop :=
  (candidate ∉ r.ids ∧ id = candidate) ∨
    (candidate ∈ r.ids ∧ ∃ n ≤ r.size, id = numbered candidate n ∧
      numbered candidate n ∉ r.ids ∧ ∀ m < n, numbered candidate m ∈ r.ids)

theorem isLeastFree_unique (r : IdRegistry) (candidate : String) :
    r.IsLeastFree candidate (r.unique candidate) :=
  (r.unique_spec candidate).imp id id

theorem size_register (r : IdRegistry) (id : String) :
    (r.register id).size = r.size + if id ∈ r.ids then 0 else 1 := by
  rw [register]
  split
  · rfl
  · rw [size, size, List.length_cons]

end IdRegistry

namespace RegistryTurn

/-- The identifier that is in use after a turn whatever was in use before. -/
def registers? (t : RegistryTurn) : Option String :=
  match t.request with
  | .reserve id => some id
  | _ => t.answer.id?

/-- Whether a turn takes an identifier that was free. -/
def takesFree (t : RegistryTurn) : Bool :=
  match t.answer with
  | .told yes => yes && t.registers?.isSome
  | _ => true

/-- What a turn does. -/
structure Sound (t : RegistryTurn) : Prop where
  /-- The identifiers in use stay in use, and at most one comes to them. -/
  mem_after_iff : ∀ id, id ∈ t.after.ids ↔ t.registers? = some id ∨ id ∈ t.before.ids
  size_after : t.after.size = t.before.size + if t.takesFree then 1 else 0
  /-- Reserving tells whether the identifier was free. -/
  reserved : ∀ id, t.request = .reserve id → t.answer = .told (decide (id ∉ t.before.ids))
  contained : ∀ id, t.request = .contains id →
    t.answer = .told (decide (id ∈ t.before.ids)) ∧ t.after = t.before
  answered : ∀ candidate, t.request.candidate? = some candidate →
    ∃ id, t.answer.id? = some id ∧ t.before.IsLeastFree candidate id
  /-- What is given out was free, and is in use from then on. -/
  given : ∀ id, t.answer.id? = some id →
    id ∉ t.before.ids ∧ t.registers? = some id ∧ id ∈ t.after.ids ∧
      t.after.size = t.before.size + 1
  /-- An element that is given an identifier is changed in nothing else. -/
  assigned : ∀ e scope, t.request = .assign e scope →
    ∃ id, t.answer.id? = some id ∧ t.answer = .assigned (e.setAttr "id" id)

end RegistryTurn

namespace IdRegistry

/-- A turn that gives out the identifier found for a candidate is sound. -/
private theorem sound_of_unique {t : RegistryTurn} {candidate : String}
    (asked : t.request.candidate? = some candidate)
    (answered : t.answer.id? = some (t.before.unique candidate))
    (registered : t.after = t.before.register (t.before.unique candidate))
    (assigned : ∀ e scope, t.request = .assign e scope →
      t.answer = .assigned (e.setAttr "id" (t.before.unique candidate))) : t.Sound := by
  have free : t.before.unique candidate ∉ t.before.ids := t.before.unique_not_mem candidate
  have grown : t.after.size = t.before.size + 1 := by
    rw [registered, size_register, if_neg free]
  have registers : t.registers? = some (t.before.unique candidate) := by
    rw [RegistryTurn.registers?]
    split
    · next id reserves => rw [reserves] at asked; cases asked
    · exact answered
  have takes : t.takesFree = true := by
    rw [RegistryTurn.takesFree]
    split
    · next told => rw [told] at answered; cases answered
    · rfl
  have memAfter : ∀ id, id ∈ t.after.ids ↔ t.registers? = some id ∨ id ∈ t.before.ids := by
    intro id
    rw [registered, mem_register_iff, registers, Option.some.injEq, eq_comm]
  refine ⟨memAfter, by rw [grown, takes, if_pos rfl], ?_, ?_, ?_, ?_, ?_⟩
  · intro id reserves
    rw [reserves] at asked
    cases asked
  · intro id contains
    rw [contains] at asked
    cases asked
  · intro other same
    rw [asked, Option.some.injEq] at same
    exact same ▸ ⟨_, answered, t.before.isLeastFree_unique candidate⟩
  · intro id given
    rw [answered, Option.some.injEq] at given
    subst given
    exact ⟨free, registers, (memAfter _).mpr (Or.inl registers), grown⟩
  · intro e scope assigns
    exact ⟨_, answered, assigned e scope assigns⟩

/-- Every turn is sound, whatever registry it begins with. -/
theorem sound_turn (r : IdRegistry) (request : RegistryRequest) : (r.turn request).Sound := by
  cases request with
  | reserve id =>
      have isFree : (!r.contains id) = decide (id ∉ r.ids) := by
        rw [contains, List.contains_eq_mem, decide_not]
      refine ⟨?_, ?_, ?_, ?_, ?_, ?_, ?_⟩
      · intro other
        rw [show (r.turn (.reserve id)).after = r.register id from rfl, mem_register_iff]
        exact or_congr_left (eq_comm.trans (Option.some.injEq _ _).symm.to_iff)
      · change (r.register id).size = r.size + if (!r.contains id && true) then 1 else 0
        rw [size_register, isFree, Bool.and_true]
        by_cases taken : id ∈ r.ids <;> simp [taken]
      · rintro _ ⟨⟩
        exact congrArg RegistryAnswer.told isFree
      · rintro _ ⟨⟩
      · rintro _ ⟨⟩
      · rintro _ ⟨⟩
      · rintro _ _ ⟨⟩
  | contains id =>
      refine ⟨?_, ?_, ?_, ?_, ?_, ?_, ?_⟩
      · intro other
        exact (or_iff_right (by rintro ⟨⟩)).symm
      · change r.size = r.size + if (r.contains id && false) then 1 else 0
        rw [Bool.and_false]
        rfl
      · rintro _ ⟨⟩
      · rintro _ ⟨⟩
        exact ⟨congrArg RegistryAnswer.told (List.contains_eq_mem _ _), rfl⟩
      · rintro _ ⟨⟩
      · rintro _ ⟨⟩
      · rintro _ _ ⟨⟩
  | makeUnique candidate =>
      have asked : (RegistryRequest.makeUnique candidate).candidate? = some candidate := rfl
      apply sound_of_unique asked rfl rfl
      rintro _ _ ⟨⟩
  | assign e scope =>
      have asked : (RegistryRequest.assign e scope).candidate? = some (anchorCandidate e scope) :=
        rfl
      have answered : (r.turn (.assign e scope)).answer.id? =
          some (r.unique (anchorCandidate e scope)) :=
        Table.get?_insert_self _ _ _
      apply sound_of_unique asked answered rfl
      rintro _ _ ⟨⟩
      rfl

/-! ## Runs -/

theorem sound_of_mem_turns {r : IdRegistry} {requests : List RegistryRequest} {t : RegistryTurn}
    (member : t ∈ r.turns requests) : t.Sound := by
  induction requests generalizing r with
  | nil => cases member
  | cons request requests inductionHypothesis =>
      rcases List.mem_cons.mp member with rfl | later
      · exact r.sound_turn request
      · exact inductionHypothesis later

/-- Whatever a run begins with is in use at each of its turns. -/
theorem subset_before_of_mem_turns {r : IdRegistry} {requests : List RegistryRequest}
    {t : RegistryTurn} (member : t ∈ r.turns requests) : r.ids ⊆ t.before.ids := by
  induction requests generalizing r with
  | nil => cases member
  | cons request requests inductionHypothesis =>
      rcases List.mem_cons.mp member with rfl | later
      · exact List.Subset.refl _
      · intro id inUse
        exact inductionHypothesis later (((r.sound_turn request).mem_after_iff id).mpr (Or.inr inUse))

/-- What one turn leaves in use, each later turn begins with. -/
theorem pairwise_turns (r : IdRegistry) (requests : List RegistryRequest) :
    (r.turns requests).Pairwise fun earlier later => earlier.after.ids ⊆ later.before.ids := by
  induction requests generalizing r with
  | nil => exact List.Pairwise.nil
  | cons request requests inductionHypothesis =>
      rw [turns, List.pairwise_cons]
      exact ⟨fun later member => subset_before_of_mem_turns member, inductionHypothesis _⟩

/-- The identifiers in use after a run: those that it began with, and those of its turns. -/
theorem mem_serveAll_iff (r : IdRegistry) (requests : List RegistryRequest) {id : String} :
    id ∈ (r.serveAll requests).ids ↔
      id ∈ (r.turns requests).filterMap RegistryTurn.registers? ∨ id ∈ r.ids := by
  induction requests generalizing r with
  | nil => simp [serveAll, turns]
  | cons request requests inductionHypothesis =>
      have first := (r.sound_turn request).mem_after_iff id
      change id ∈ (r.serve request).2.ids ↔ _ ∨ id ∈ r.ids at first
      rw [serveAll, List.foldl_cons, ← serveAll, inductionHypothesis, first, turns]
      simp only [List.mem_filterMap, List.exists_mem_cons_iff]
      rw [← or_assoc, or_comm (b := (r.turn request).registers? = some id)]

theorem size_serveAll (r : IdRegistry) (requests : List RegistryRequest) :
    (r.serveAll requests).size = r.size + (r.turns requests).countP RegistryTurn.takesFree := by
  induction requests generalizing r with
  | nil => rfl
  | cons request requests inductionHypothesis =>
      have first := (r.sound_turn request).size_after
      change (r.serve request).2.size = r.size + _ at first
      rw [serveAll, List.foldl_cons, ← serveAll, inductionHypothesis, first, turns, List.countP_cons]
      omega

/-- A run on a fresh registry.  Each turn is sound; what was registered stays so; no two turns give
out the same identifier, and none gives out one that was reserved before; and the registry holds
the identifiers of the turns, as many as turns have taken a free one. -/
theorem turns_of_fresh_registry (requests : List RegistryRequest) :
    (∀ t ∈ turns {} requests, t.Sound) ∧
      ((turns {} requests).Pairwise fun earlier later =>
        earlier.after.ids ⊆ later.before.ids ∧
          ∀ id, earlier.registers? = some id → later.answer.id? ≠ some id) ∧
      ((turns {} requests).filterMap fun t => t.answer.id?).Nodup ∧
      (∀ id, id ∈ (serveAll {} requests).ids ↔
        id ∈ (turns {} requests).filterMap RegistryTurn.registers?) ∧
      (serveAll {} requests).size = (turns {} requests).countP RegistryTurn.takesFree := by
  have sound : ∀ t ∈ turns {} requests, t.Sound := fun t member => sound_of_mem_turns member
  -- What a turn gives out was free before it, and so no earlier turn has registered it.
  have unregistered : (turns {} requests).Pairwise fun earlier later =>
      earlier.after.ids ⊆ later.before.ids ∧
        ∀ id, earlier.registers? = some id → later.answer.id? ≠ some id := by
    apply (pairwise_turns {} requests).imp_of_mem
    intro earlier later isEarlier isLater kept
    refine ⟨kept, ?_⟩
    intro id registered given
    have inUse := kept (((sound earlier isEarlier).mem_after_iff id).mpr (Or.inl registered))
    exact ((sound later isLater).given id given).1 inUse
  refine ⟨sound, unregistered, ?_, ?_, ?_⟩
  · apply List.pairwise_filterMap.mpr
    apply unregistered.imp_of_mem
    rintro earlier later isEarlier - ⟨-, different⟩ id given other givenLater same
    exact different id ((sound earlier isEarlier).given id given).2.1 (same ▸ givenLater)
  · intro id
    rw [mem_serveAll_iff]
    simp
  · rw [size_serveAll]
    exact Nat.zero_add _

/-- Numbers go on from those that are taken, also where the page itself has numbered. -/
example :
    (turns {} [.makeUnique "a", .makeUnique "a", .makeUnique "a", .reserve "b_0", .makeUnique "b",
      .makeUnique "b"]).filterMap (fun t => t.answer.id?) = ["a", "a_0", "a_1", "b", "b_1"] := by
  decide +kernel

end IdRegistry

end Folio
