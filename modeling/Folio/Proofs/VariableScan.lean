import Folio.Notice
import Mathlib.Data.List.TakeWhile

namespace Folio

/-!
# Substitution as a plain scan

The plain scanner looks at one place of a text after the other.  If the token of an entry of the
table begins there, it writes the value and goes on behind the token; if not, it copies one
character.  Substitution searches from token to token instead, and goes on one character behind the
beginning of a token with an unknown name.  Between the place that it has reached and the next token
the scanner has nothing to do but copy, so at each turn substitution is where the scanner is, and
what it owes is the text that it has not copied yet.

A name of the table has letters, digits and low lines in it only.  So no two tokens begin at one
place, and it is the same to look for the entries of the table and to read a name first.
-/

namespace VariableToken

theorem nameAtFront?_percent (cs : List Char) :
    nameAtFront? ('%' :: cs) =
      if (cs.takeWhile isVariableChar).isEmpty then none
      else if (cs.dropWhile isVariableChar).head? = some '%' then
        some (cs.takeWhile isVariableChar)
      else none := rfl

theorem nameAtFront?_of_ne {c : Char} (other : c ≠ '%') (cs : List Char) :
    nameAtFront? (c :: cs) = none := by
  unfold nameAtFront?
  split
  · next equal => exact absurd (List.cons.inj equal).1 other
  · rfl

/-- A name stands at the front of a text exactly if the text begins with its token. -/
theorem nameAtFront?_eq_some_iff {cs name : List Char} :
    nameAtFront? cs = some name ↔ name ≠ [] ∧ (∀ c ∈ name, isVariableChar c = true) ∧
      ∃ rest, cs = '%' :: (name ++ '%' :: rest) := by
  constructor
  · intro found
    cases cs with
    | nil => cases found
    | cons c cs =>
        by_cases percent : c = '%'
        · subst percent
          rw [nameAtFront?_percent] at found
          split at found
          · cases found
          · next nonempty =>
              split at found
              · next closed =>
                  have same := Option.some.inj found
                  rcases List.head?_eq_some_iff.mp closed with ⟨rest, after⟩
                  have whole := List.takeWhile_append_dropWhile (p := isVariableChar) (l := cs)
                  rw [same, after] at whole
                  rw [same] at nonempty
                  refine ⟨by simpa using nonempty, ?_, rest, by rw [whole]⟩
                  intro c member
                  exact List.mem_takeWhile_imp (same ▸ member)
              · cases found
        · rw [nameAtFront?_of_ne percent] at found
          cases found
  · rintro ⟨nonempty, letters, rest, rfl⟩
    have noLetter : isVariableChar '%' = false := by decide
    have taken : (name ++ '%' :: rest).takeWhile isVariableChar = name := by
      rw [List.takeWhile_append_of_pos letters, List.takeWhile_cons_of_neg (by simp [noLetter]),
        List.append_nil]
    have dropped : (name ++ '%' :: rest).dropWhile isVariableChar = '%' :: rest := by
      rw [List.dropWhile_append_of_pos letters, List.dropWhile_cons_of_neg (by simp [noLetter])]
    rw [nameAtFront?_percent, taken, dropped, if_neg (by simpa using nonempty), List.head?_cons,
      if_pos rfl]

/-- The token of a name. -/
def spelled (name : String) : List Char := '%' :: (name.toList ++ ['%'])

theorem nameAtFront?_eq_some_toList_iff {cs : List Char} {name : String} :
    nameAtFront? cs = some name.toList ↔ isVariableName name = true ∧ spelled name <+: cs := by
  rw [nameAtFront?_eq_some_iff, isVariableName, Bool.and_eq_true, Bool.not_eq_true',
    String.isEmpty_eq_false_iff, List.all_eq_true, ← and_assoc, ne_eq, ne_eq,
    String.toList_eq_nil_iff]
  apply and_congr_right
  intro _
  constructor
  · rintro ⟨rest, rfl⟩
    exact ⟨rest, by simp [spelled]⟩
  · rintro ⟨rest, rfl⟩
    exact ⟨rest, by simp [spelled]⟩

theorem nameAtFront?_spelled {name : String} (valid : isVariableName name = true)
    (behind : List Char) : nameAtFront? (spelled name ++ behind) = some name.toList :=
  nameAtFront?_eq_some_toList_iff.mpr ⟨valid, List.prefix_append _ _⟩

/-- Whether no complete token begins in the front part of a text. -/
def IsSilent (front back : List Char) : Prop :=
  ∀ before c behind, front = before ++ c :: behind → nameAtFront? (c :: (behind ++ back)) = none

theorem isSilent_cons_iff {c : Char} {front back : List Char} :
    IsSilent (c :: front) back ↔
      nameAtFront? (c :: (front ++ back)) = none ∧ IsSilent front back := by
  constructor
  · intro silent
    refine ⟨silent [] c front rfl, ?_⟩
    rintro before d behind rfl
    exact silent (c :: before) d behind rfl
  · rintro ⟨here, later⟩ before d behind divided
    cases before with
    | nil =>
        rcases List.cons.inj divided with ⟨rfl, rfl⟩
        exact here
    | cons b before => exact later before d behind (List.cons.inj divided).2

/-- The search passes over a part of the text in which no token begins. -/
theorem exists_of_firstFrom? {place : Nat} {cs : List Char} {t : Found}
    (found : firstFrom? place cs = some t) :
    ∃ front back, cs = front ++ back ∧ IsSilent front back ∧ t.start = place + front.length ∧
      nameAtFront? back = some t.name := by
  induction cs generalizing place with
  | nil => cases found
  | cons c cs inductionHypothesis =>
      rw [firstFrom?] at found
      split at found
      · next name atFront =>
          rw [← Option.some.inj found]
          refine ⟨[], c :: cs, rfl, ?_, rfl, atFront⟩
          intro before d behind impossible
          exact absurd impossible (by simp)
      · next noToken =>
          rcases inductionHypothesis found with ⟨front, back, rfl, silent, start, atFront⟩
          refine ⟨c :: front, back, rfl, isSilent_cons_iff.mpr ⟨noToken, silent⟩, ?_, atFront⟩
          rw [start, List.length_cons]
          omega

theorem isSilent_of_firstFrom?_eq_none {place : Nat} {cs : List Char}
    (none : firstFrom? place cs = none) : IsSilent cs [] := by
  induction cs generalizing place with
  | nil =>
      intro before c behind impossible
      exact absurd impossible (by simp)
  | cons c cs inductionHypothesis =>
      rw [firstFrom?] at none
      split at none
      · cases none
      · next noToken =>
          rw [isSilent_cons_iff, List.append_nil]
          exact ⟨noToken, inductionHypothesis none⟩

end VariableToken

theorem byteLength_append (front back : List Char) :
    byteLength (front ++ back) = byteLength front + byteLength back := by
  induction front with
  | nil => exact (Nat.zero_add _).symm
  | cons c front inductionHypothesis =>
      have here : ∀ cs, byteLength (c :: cs) = c.utf8Size + byteLength cs := fun cs => rfl
      rw [List.cons_append, here, here, inductionHypothesis, Nat.add_assoc]

/-! ## The scanner -/

namespace Variables

open VariableToken

/-- A place in a text: how many bytes are in front of it, and what begins there. -/
structure Place where
  offset : Nat
  ahead : List Char

variable (vars : Variables)

/-- The entry of the table whose token stands at the front of a text. -/
def entryAtFront? (cs : List Char) : Option (String × String) :=
  vars.entries.find? fun entry => (spelled entry.1).isPrefixOf cs

/-- The places at which the scanner looks, one behind the other. -/
def places (offset : Nat) (cs : List Char) : List Place :=
  match cs with
  | [] => []
  | c :: rest =>
    ⟨offset, c :: rest⟩ ::
      match vars.entryAtFront? (c :: rest) with
      | some entry =>
        places (offset + byteLength (spelled entry.1)) ((c :: rest).drop (spelled entry.1).length)
      | none => places (offset + c.utf8Size) rest
termination_by cs.length
decreasing_by
  · simp only [spelled, List.length_cons, List.length_drop]
    omega
  · exact Nat.lt_succ_self _

/-- What the scanner writes at a place: a value, or the character that is there. -/
def emitted (place : Place) : List Char :=
  match vars.entryAtFront? place.ahead with
  | some entry => entry.2.toList
  | none => place.ahead.take 1

/-- Whether the scanner first meets the token of an unknown name behind so many bytes. -/
def FirstMeets (cs : List Char) (name : String) (offset : Nat) : Prop :=
  isVariableName name = true ∧ vars.get? name = none ∧
    ∃ before place behind, vars.places 0 cs = before ++ place :: behind ∧
      (∀ earlier ∈ before, ¬ spelled name <+: earlier.ahead) ∧
      spelled name <+: place.ahead ∧ place.offset = offset

theorem isVariableName_of_get? {name value : String} (known : vars.get? name = some value) :
    isVariableName name = true := by
  apply vars.valid
  exact List.mem_map_of_mem ((vars.dict.get?_eq_some_iff).mp known)

theorem of_entryAtFront? {cs : List Char} {entry : String × String}
    (found : vars.entryAtFront? cs = some entry) :
    nameAtFront? cs = some entry.1.toList ∧ vars.get? entry.1 = some entry.2 := by
  have known : vars.get? entry.1 = some entry.2 :=
    vars.dict.get?_eq_some_iff.mpr (List.mem_of_find?_eq_some found)
  have begins : (spelled entry.1).isPrefixOf cs = true :=
    List.find?_some (p := fun e : String × String => (spelled e.1).isPrefixOf cs) found
  refine ⟨nameAtFront?_eq_some_toList_iff.mpr ⟨vars.isVariableName_of_get? known, ?_⟩, known⟩
  exact List.isPrefixOf_iff_prefix.mp begins

/-- No two entries of a table have their tokens at the front of one text. -/
theorem entryAtFront?_eq_some_iff {cs : List Char} {name value : String} :
    vars.entryAtFront? cs = some (name, value) ↔
      nameAtFront? cs = some name.toList ∧ vars.get? name = some value := by
  constructor
  · exact vars.of_entryAtFront?
  · rintro ⟨atFront, known⟩
    have begins := (nameAtFront?_eq_some_toList_iff.mp atFront).2
    cases found : vars.entryAtFront? cs with
    | none =>
        have absent := List.find?_eq_none.mp found (name, value)
          (vars.dict.get?_eq_some_iff.mp known)
        exact absurd (List.isPrefixOf_iff_prefix.mpr begins) absent
    | some entry =>
        rcases vars.of_entryAtFront? found with ⟨otherAtFront, otherKnown⟩
        have same : entry.1 = name :=
          String.toList_inj.mp (Option.some.inj (otherAtFront.symm.trans atFront))
        rw [same, known] at otherKnown
        rw [← same, Option.some.inj otherKnown]

theorem entryAtFront?_of_nameAtFront?_eq_none {cs : List Char} (none : nameAtFront? cs = none) :
    vars.entryAtFront? cs = .none := by
  rw [Option.eq_none_iff_forall_ne_some]
  rintro ⟨name, value⟩ found
  rw [entryAtFront?_eq_some_iff, none] at found
  cases found.1

section Places

variable {vars} {offset : Nat}

theorem places_of_entry {cs : List Char} {entry : String × String}
    (found : vars.entryAtFront? cs = some entry) :
    vars.places offset cs = ⟨offset, cs⟩ ::
      vars.places (offset + byteLength (spelled entry.1)) (cs.drop (spelled entry.1).length) := by
  cases cs with
  | nil =>
      have impossible := (vars.entryAtFront?_eq_some_iff.mp found).1
      cases impossible
  | cons c rest => rw [places, found]

theorem places_cons_of_none {c : Char} {rest : List Char}
    (none : vars.entryAtFront? (c :: rest) = none) :
    vars.places offset (c :: rest) =
      ⟨offset, c :: rest⟩ :: vars.places (offset + c.utf8Size) rest := by
  rw [places, none]

/-- The name that the scanner reads at a place, if the table does not know it. -/
def unknownAt? (vars : Variables) (place : Place) : Option (String × Nat) :=
  (nameAtFront? place.ahead).bind fun name =>
    if vars.get? (String.ofList name) = none then some (String.ofList name, place.offset) else none

/-- The names that are read at some places, each once. -/
def reports (vars : Variables) (places : List Place) : List (String × Nat) :=
  (places.filterMap vars.unknownAt?).foldl (fun noted r => report noted r.1 r.2) []

theorem reports_concat (passed : List Place) (place : Place) :
    vars.reports (passed ++ [place]) = match vars.unknownAt? place with
      | none => vars.reports passed
      | some r => report (vars.reports passed) r.1 r.2 := by
  rw [reports, List.filterMap_append, List.filterMap_cons, List.filterMap_nil]
  cases vars.unknownAt? place with
  | none => rw [List.append_nil, reports]
  | some r =>
      rw [List.foldl_append, reports]
      rfl

theorem unknownAt?_of_known {cs name : List Char} {value : String}
    (atFront : nameAtFront? cs = some name) (known : vars.get? (String.ofList name) = some value) :
    vars.unknownAt? ⟨offset, cs⟩ = none := by
  rw [unknownAt?, atFront, Option.bind_some, known, if_neg (by simp)]

theorem unknownAt?_of_unknown {cs name : List Char}
    (atFront : nameAtFront? cs = some name) (unknown : vars.get? (String.ofList name) = none) :
    vars.unknownAt? ⟨offset, cs⟩ = some (String.ofList name, offset) := by
  rw [unknownAt?, atFront, Option.bind_some, if_pos unknown]

/-- Where no token begins the scanner copies, and reads no name. -/
theorem exists_places_of_isSilent (vars : Variables) (offset : Nat) {front back : List Char}
    (silent : IsSilent front back) :
    ∃ copied, vars.places offset (front ++ back) =
        copied ++ vars.places (offset + byteLength front) back ∧
      copied.flatMap vars.emitted = front ∧ copied.filterMap vars.unknownAt? = [] := by
  induction front generalizing offset with
  | nil => exact ⟨[], rfl, rfl, rfl⟩
  | cons c front inductionHypothesis =>
      rcases isSilent_cons_iff.mp silent with ⟨noToken, later⟩
      have noEntry := vars.entryAtFront?_of_nameAtFront?_eq_none noToken
      rcases inductionHypothesis (offset + c.utf8Size) later with
        ⟨copied, goesOn, written, noNames⟩
      refine ⟨⟨offset, c :: (front ++ back)⟩ :: copied, ?_, ?_, ?_⟩
      · rw [List.cons_append, places_cons_of_none noEntry, goesOn, Nat.add_assoc]
        rfl
      · rw [List.flatMap_cons, written, emitted, noEntry]
        rfl
      · rw [List.filterMap_cons, unknownAt?, noToken, noNames]
        rfl

end Places

/-! ## Substitution follows the scanner -/

/-- Whether substitution is where the scanner is when it has passed over some places: it owes what
the scanner has copied since the last known token. -/
structure Follows (text done ahead : List Char) (passed : List Place) (p : Progress) : Prop where
  divided : text = done ++ ahead
  last : p.last ≤ done.length
  places : vars.places 0 text = passed ++ vars.places (byteLength done) ahead
  output : p.output ++ done.drop p.last = passed.flatMap vars.emitted
  unknown : p.unknown = vars.reports passed

section Follows

variable {vars} {text done front back : List Char} {passed : List Place} {p : Progress}

theorem Follows.copy (follows : vars.Follows text done (front ++ back) passed p)
    (silent : IsSilent front back) :
    ∃ passed', vars.Follows text (done ++ front) back passed' p := by
  rcases exists_places_of_isSilent vars (byteLength done) silent with
    ⟨copied, goesOn, written, noNames⟩
  refine ⟨passed ++ copied, ?_, ?_, ?_, ?_, ?_⟩
  · rw [follows.divided, List.append_assoc]
  · exact Nat.le_trans follows.last (by simp)
  · rw [follows.places, goesOn, byteLength_append, List.append_assoc]
  · rw [List.drop_append_of_le_length follows.last, ← List.append_assoc, follows.output,
      List.flatMap_append, written]
  · rw [follows.unknown, reports, reports, List.filterMap_append, noNames, List.append_nil]

/-- A token with a known name is replaced by its value. -/
theorem Follows.replace {name value : String}
    (follows : vars.Follows text done (spelled name ++ back) passed p)
    (known : vars.get? name = some value) (stop : Nat)
    (isStop : stop = (done ++ spelled name).length) :
    ∃ passed', vars.Follows text (done ++ spelled name) back passed'
      { p with
        output := p.output ++ done.drop p.last ++ value.toList
        last := stop
        place := stop } := by
  have atFront := nameAtFront?_spelled (vars.isVariableName_of_get? known) back
  have found := vars.entryAtFront?_eq_some_iff.mpr ⟨atFront, known⟩
  refine ⟨passed ++ [⟨byteLength done, spelled name ++ back⟩], ?_, ?_, ?_, ?_, ?_⟩
  · rw [follows.divided, List.append_assoc]
  · exact Nat.le_of_eq isStop
  · rw [follows.places, places_of_entry found, List.drop_left, byteLength_append, List.append_assoc]
    rfl
  · rw [isStop, List.drop_length, List.append_nil, follows.output, List.flatMap_append,
      List.flatMap_singleton, emitted, found]
  · rw [reports_concat, unknownAt?_of_known atFront (by rw [String.ofList_toList, known])]
    exact follows.unknown

/-- Of a token with an unknown name only the opening percent sign is passed over. -/
theorem Follows.skip {c : Char} {name : List Char}
    (follows : vars.Follows text done (c :: back) passed p)
    (atFront : nameAtFront? (c :: back) = some name)
    (unknown : vars.get? (String.ofList name) = none) (place : Nat) :
    ∃ passed', vars.Follows text (done ++ [c]) back passed'
      { p with
        unknown := report p.unknown (String.ofList name) (byteLength done)
        place := place } := by
  have noEntry : vars.entryAtFront? (c :: back) = none := by
    rw [Option.eq_none_iff_forall_ne_some]
    intro entry found
    rcases vars.of_entryAtFront? found with ⟨otherAtFront, known⟩
    rw [Option.some.inj (atFront.symm.trans otherAtFront), String.ofList_toList, known] at unknown
    cases unknown
  refine ⟨passed ++ [⟨byteLength done, c :: back⟩], ?_, ?_, ?_, ?_, ?_⟩
  · rw [follows.divided, List.append_assoc, List.singleton_append]
  · exact Nat.le_trans follows.last (by simp)
  · rw [follows.places, places_cons_of_none noEntry, byteLength_append, List.append_assoc]
    rfl
  · rw [List.drop_append_of_le_length follows.last, ← List.append_assoc, follows.output,
      List.flatMap_append, List.flatMap_singleton, emitted, noEntry]
    rfl
  · rw [reports_concat, unknownAt?_of_unknown atFront unknown, follows.unknown]

/-- One turn of substitution takes it to a later place of the scanner. -/
theorem Follows.step (follows : vars.Follows text done back passed p)
    (here : p.place = done.length) {token : Found} (found : find? text p.place = some token) :
    ∃ done' back' passed', vars.Follows text done' back' passed' (vars.step text p token) ∧
      (vars.step text p token).place = done'.length := by
  rw [find?, here, follows.divided, List.drop_left] at found
  rcases exists_of_firstFrom? found with ⟨front, behind, rfl, silent, start, atFront⟩
  rw [← List.length_append] at start
  rcases follows.copy silent with ⟨passed', copied⟩
  have beforeToken : text.take token.start = done ++ front := by
    rw [copied.divided, start, List.take_left]
  rw [Variables.step, beforeToken]
  cases known : vars.get? token.key with
  | none =>
      rcases nameAtFront?_eq_some_iff.mp atFront with ⟨-, -, rest, opened⟩
      rw [opened] at copied atFront
      rcases copied.skip atFront known (token.start + 1) with ⟨passed'', skipped⟩
      refine ⟨done ++ front ++ ['%'], _, passed'', skipped, ?_⟩
      rw [List.length_append, ← start]
      rfl
  | some value =>
      have begins := nameAtFront?_eq_some_toList_iff.mp
        (atFront.trans (congrArg some (String.toList_ofList (l := token.name)).symm))
      rcases begins.2 with ⟨rest, rfl⟩
      have stop : token.stop = (done ++ front ++ spelled token.key).length := by
        rw [Found.stop, List.length_append, ← start, spelled, Found.key, String.toList_ofList]
        simp
      rcases copied.replace known token.stop stop with ⟨passed'', replaced⟩
      exact ⟨_, rest, passed'', replaced, stop⟩

/-- Substitution ends with what the scanner writes, and has reported the names that it reads. -/
theorem run_of_follows (follows : vars.Follows text done back passed p)
    (here : p.place = done.length) :
    vars.run text p =
      ⟨(vars.places 0 text).flatMap vars.emitted, vars.reports (vars.places 0 text)⟩ := by
  fun_induction run vars text p generalizing done back passed with
  | case1 p none =>
      rw [find?, here, follows.divided, List.drop_left] at none
      have silent := isSilent_of_firstFrom?_eq_none none
      rw [← List.append_nil back] at follows
      rcases follows.copy silent with ⟨passed', ended⟩
      have whole : text = done ++ back := by rw [ended.divided, List.append_nil]
      have output := ended.output
      rw [← whole] at output
      rw [ended.places, places, List.append_nil, ← output, ← ended.unknown]
  | case2 p token found inductionHypothesis =>
      rcases follows.step here found with ⟨done', back', passed', later, place⟩
      exact inductionHypothesis later place

end Follows

theorem run_eq (text : List Char) :
    vars.run text {} =
      ⟨(vars.places 0 text).flatMap vars.emitted, vars.reports (vars.places 0 text)⟩ := by
  have start : vars.Follows text [] text [] {} := ⟨rfl, Nat.le_refl 0, rfl, rfl, rfl⟩
  exact run_of_follows start rfl

/-- Without entries there is nothing but to copy. -/
theorem flatMap_emitted_places_of_isEmpty (empty : vars.isEmpty = true) (offset : Nat)
    (cs : List Char) : (vars.places offset cs).flatMap vars.emitted = cs := by
  have noEntry : ∀ cs, vars.entryAtFront? cs = none := by
    intro cs
    rw [entryAtFront?, entries, List.isEmpty_iff.mp empty, List.find?_nil]
  induction cs generalizing offset with
  | nil => rw [places, List.flatMap_nil]
  | cons c cs inductionHypothesis =>
      rw [places_cons_of_none (noEntry _), List.flatMap_cons, emitted, noEntry,
        inductionHypothesis]
      rfl

/-- The text that substitution makes is what the scanner writes. -/
theorem text_apply_eq_scan (text : String) :
    (vars.apply text).text = (vars.places 0 text.toList).flatMap vars.emitted := by
  rw [apply]
  split
  · next empty => exact (vars.flatMap_emitted_places_of_isEmpty empty 0 text.toList).symm
  · rw [run_eq]

section Reports

variable {vars}

theorem unknownAt?_eq_some_iff {place : Place} {name : String} {offset : Nat} :
    vars.unknownAt? place = some (name, offset) ↔ isVariableName name = true ∧
      vars.get? name = none ∧ spelled name <+: place.ahead ∧ place.offset = offset := by
  rw [unknownAt?, Option.bind_eq_some_iff]
  constructor
  · rintro ⟨letters, atFront, found⟩
    split at found
    · next unknown =>
        rcases Prod.mk.inj (Option.some.inj found) with ⟨rfl, rfl⟩
        rw [← String.toList_ofList (l := letters)] at atFront
        rcases nameAtFront?_eq_some_toList_iff.mp atFront with ⟨valid, begins⟩
        exact ⟨valid, unknown, begins, rfl⟩
    · cases found
  · rintro ⟨valid, unknown, begins, rfl⟩
    refine ⟨name.toList, nameAtFront?_eq_some_toList_iff.mpr ⟨valid, begins⟩, ?_⟩
    rw [String.ofList_toList, if_pos unknown]

/-- Of the reports of one name the first is kept. -/
theorem mem_foldl_report_iff {rs noted : List (String × Nat)} {name : String} {offset : Nat} :
    (name, offset) ∈ rs.foldl (fun noted r => report noted r.1 r.2) noted ↔
      (name, offset) ∈ noted ∨
        name ∉ noted.map Prod.fst ∧ rs.find? (fun r => r.1 == name) = some (name, offset) := by
  induction rs generalizing noted with
  | nil => simp
  | cons r rs inductionHypothesis =>
      rw [List.foldl_cons, inductionHypothesis, List.find?_cons, report]
      split
      · next old =>
          apply or_congr_right
          apply and_congr_right
          intro new
          have other : (r.1 == name) = false := beq_eq_false_iff_ne.mpr fun same => new (same ▸ old)
          rw [other]
      · next new =>
          by_cases same : r.1 = name
          · subst same
            have isIn : r.1 ∈ (noted ++ [(r.1, r.2)]).map Prod.fst := by simp
            rw [or_iff_left fun later => later.1 isIn, List.mem_append, List.mem_singleton,
              beq_self_eq_true, and_iff_right new, Option.some_inj]
            exact or_congr_right eq_comm
          · have other : (r.1 == name) = false := beq_eq_false_iff_ne.mpr same
            have different : (name, offset) ≠ (r.1, r.2) := fun equal =>
              same (Prod.mk.inj equal).1.symm
            rw [other, List.mem_append, List.mem_singleton, or_iff_left different, List.map_append,
              List.map_singleton, List.mem_append, List.mem_singleton, not_or,
              and_iff_left (Ne.symm same)]

theorem nodup_report {noted : List (String × Nat)} (nodup : (noted.map Prod.fst).Nodup)
    (name : String) (offset : Nat) : ((report noted name offset).map Prod.fst).Nodup := by
  unfold report
  split
  · exact nodup
  · next new =>
      rw [List.map_append, List.map_singleton, List.nodup_append]
      refine ⟨nodup, List.nodup_cons.mpr ⟨List.not_mem_nil, List.nodup_nil⟩, ?_⟩
      intro old member other isNew same
      have repeated : old = name := same.trans (List.mem_singleton.mp isNew)
      exact new (repeated ▸ member)

theorem nodup_foldl_report (noted rs : List (String × Nat))
    (nodup : (noted.map Prod.fst).Nodup) :
    ((rs.foldl (fun noted r => report noted r.1 r.2) noted).map Prod.fst).Nodup := by
  induction rs generalizing noted with
  | nil => exact nodup
  | cons r rs inductionHypothesis => exact inductionHypothesis _ (nodup_report nodup r.1 r.2)

theorem foldl_report_sublist (noted rs : List (String × Nat)) :
    (rs.foldl (fun noted r => report noted r.1 r.2) noted).Sublist (noted ++ rs) := by
  induction rs generalizing noted with
  | nil => exact List.sublist_append_left noted []
  | cons r rs inductionHypothesis =>
      rw [List.foldl_cons]
      refine (inductionHypothesis _).trans ?_
      rw [report]
      split
      · exact (List.sublist_cons_self r rs).append_left noted
      · have same : noted ++ [(r.1, r.2)] ++ rs = noted ++ r :: rs := List.append_assoc noted [r] rs
        exact same ▸ List.Sublist.refl _

/-- Whether places are in order, none of them in front of an offset. -/
def GoForward (offset : Nat) (places : List Place) : Prop :=
  places.Pairwise (fun a b => a.offset < b.offset) ∧ ∀ place ∈ places, offset ≤ place.offset

theorem GoForward.cons {later : Nat} {places : List Place} (forward : GoForward later places)
    {place : Place} (further : place.offset < later) :
    GoForward place.offset (place :: places) := by
  refine ⟨List.pairwise_cons.mpr ⟨?_, forward.1⟩, List.forall_mem_cons.mpr ⟨Nat.le_refl _, ?_⟩⟩
  · intro other member
    exact Nat.lt_of_lt_of_le further (forward.2 other member)
  · intro other member
    exact Nat.le_trans (Nat.le_of_lt further) (forward.2 other member)

theorem goForward_places (offset : Nat) (cs : List Char) :
    GoForward offset (vars.places offset cs) := by
  fun_induction places vars offset cs with
  | case1 => exact ⟨List.Pairwise.nil, fun place impossible => absurd impossible (by simp)⟩
  | case2 offset c rest behindToken behindCharacter =>
      split
      · next entry _ =>
          have positive : 0 < byteLength (spelled entry.1) :=
            Nat.add_pos_left (Char.utf8Size_pos '%') _
          exact (behindToken entry).cons (Nat.lt_add_of_pos_right positive)
      · exact behindCharacter.cons (Nat.lt_add_of_pos_right c.utf8Size_pos)

theorem any_unknownAt?_iff {place : Place} {name : String} (valid : isVariableName name = true)
    (unknown : vars.get? name = none) :
    (vars.unknownAt? place).any (fun r => r.1 == name) = true ↔ spelled name <+: place.ahead := by
  rw [Option.any_eq_true]
  constructor
  · rintro ⟨⟨other, offset⟩, found, same⟩
    rw [← beq_iff_eq.mp same]
    exact (unknownAt?_eq_some_iff.mp found).2.2.1
  · intro begins
    exact ⟨(name, place.offset), unknownAt?_eq_some_iff.mpr ⟨valid, unknown, begins, rfl⟩,
      beq_self_eq_true name⟩

/-- A name is reported for the place where the scanner first meets it. -/
theorem mem_reports_iff {cs : List Char} {name : String} {offset : Nat} :
    (name, offset) ∈ vars.reports (vars.places 0 cs) ↔ vars.FirstMeets cs name offset := by
  rw [reports, mem_foldl_report_iff, List.find?_filterMap, or_iff_right List.not_mem_nil,
    List.map_nil, and_iff_right List.not_mem_nil, Option.bind_eq_some_iff, FirstMeets]
  constructor
  · rintro ⟨place, first, here⟩
    rcases unknownAt?_eq_some_iff.mp here with ⟨valid, unknown, begins, isOffset⟩
    rcases List.find?_eq_some_iff_append.mp first with ⟨-, before, behind, divided, earlier⟩
    refine ⟨valid, unknown, before, place, behind, divided, ?_, begins, isOffset⟩
    intro other member
    rw [← any_unknownAt?_iff valid unknown]
    simpa using earlier other member
  · rintro ⟨valid, unknown, before, place, behind, divided, earlier, begins, isOffset⟩
    refine ⟨place, ?_, unknownAt?_eq_some_iff.mpr ⟨valid, unknown, begins, isOffset⟩⟩
    rw [List.find?_eq_some_iff_append]
    refine ⟨(any_unknownAt?_iff valid unknown).mpr begins, before, behind, divided, ?_⟩
    intro other member
    have notHere := earlier other member
    rw [← any_unknownAt?_iff valid unknown] at notHere
    simpa using notHere

/-- Names are reported in the order in which they are met. -/
theorem pairwise_reports (cs : List Char) :
    (vars.reports (vars.places 0 cs)).Pairwise (fun a b => a.2 < b.2) := by
  have met : ((vars.places 0 cs).filterMap vars.unknownAt?).Pairwise (fun a b => a.2 < b.2) := by
    rw [List.pairwise_filterMap]
    refine (goForward_places 0 cs).1.imp ?_
    intro place later further a foundA b foundB
    rw [← (unknownAt?_eq_some_iff.mp foundA).2.2.2, ← (unknownAt?_eq_some_iff.mp foundB).2.2.2]
    exact further
  exact met.sublist (foldl_report_sublist [] _)

end Reports

/-- Substitution is the plain scan: it writes what the scanner writes, and reports each unknown name
that the scanner reads once, for the place where it is first met.  With an empty table the text
stays as it is and nothing is reported. -/
theorem substitute_eq_scan (text : String) :
    (vars.substitute text).value =
        String.ofList ((vars.places 0 text.toList).flatMap vars.emitted) ∧
      (vars.isEmpty = false → ∃ reported : List (String × Nat),
        (vars.substitute text).notices =
          reported.map (fun r => Notice.unknownVariable r.1 r.2) ∧
        (reported.map Prod.fst).Nodup ∧ reported.Pairwise (fun a b => a.2 < b.2) ∧
        ∀ name offset, (name, offset) ∈ reported ↔ vars.FirstMeets text.toList name offset) ∧
      (vars.isEmpty = true →
        (vars.substitute text).value = text ∧ (vars.substitute text).notices = []) := by
  refine ⟨congrArg String.ofList (vars.text_apply_eq_scan text), ?_, ?_⟩
  · intro nonempty
    have noted : (vars.substitute text).notices =
        (vars.reports (vars.places 0 text.toList)).map fun r => .unknownVariable r.1 r.2 := by
      rw [substitute, apply, if_neg (by simp [nonempty]), run_eq]
    have once : ((vars.reports (vars.places 0 text.toList)).map Prod.fst).Nodup :=
      nodup_foldl_report [] _ List.nodup_nil
    exact ⟨_, noted, once, pairwise_reports text.toList, fun name offset => mem_reports_iff⟩
  · intro empty
    rw [substitute, apply, if_pos empty]
    exact ⟨String.ofList_toList, rfl⟩

/-- A table with a value that spells a token. -/
def nestedTable : Variables := ⟨⟨[("NAME", "%x%")], by decide⟩, by decide⟩

/-- A text in which two tokens share a percent sign. -/
def sharedText : String := "é%x%NAME%%x%"

theorem substitute_eq_scan_sharedText :
    nestedTable.isEmpty = false ∧ (nestedTable.substitute sharedText).value = "é%x%x%%x%" ∧
      (nestedTable.substitute sharedText).notices = [.unknownVariable "x" 2] ∧
      nestedTable.FirstMeets sharedText.toList "x" 2 ∧
      empty.isEmpty = true ∧ (empty.substitute sharedText).value = sharedText := by
  have value : (nestedTable.substitute sharedText).value = "é%x%x%%x%" := by decide +kernel
  have notices : (nestedTable.substitute sharedText).notices = [.unknownVariable "x" 2] := by
    decide +kernel
  rcases (nestedTable.substitute_eq_scan sharedText).2.1 rfl with ⟨reported, noted, -, -, meets⟩
  rcases List.map_eq_singleton_iff.mp (noted.symm.trans notices) with ⟨⟨name, offset⟩, rfl, same⟩
  rcases Notice.unknownVariable.inj same with ⟨rfl, rfl⟩
  have first := (meets "x" 2).mp List.mem_cons_self
  exact ⟨rfl, value, notices, first, rfl, ((empty.substitute_eq_scan sharedText).2.2 rfl).1⟩

end Variables

end Folio
