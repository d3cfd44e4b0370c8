import Folio.Text.Lowercase

namespace Folio
namespace Text

/-!
# Lower case once and for all

Writing a text in small letters once is enough: no character of the result has a small letter of its
own.  Most capitals stand in runs of a table, with what is added to them, and the small letters of a
run are a run again.  That none of these meets a run of the table is seen from the ends of the two,
or, where they overlap, from every second character being in either.
-/

namespace CaseRun

/-- Whether a run has a character. -/
def holds (r : CaseRun) (n : Nat) : Bool := r.1 ≤ n && n ≤ r.2.1 && (n - r.1) % r.2.2.1 == 0

/-- The small letter of a character of a run. -/
def small (r : CaseRun) (n : Nat) : Nat := ((n : Int) + r.2.2.2).toNat

/-- Whether all numbers from `first` to `last` stand for characters beyond ASCII, the dotted capital
I not among them. -/
def plain (first last : Nat) : Bool :=
  Nat.ble 0x80 first && (Nat.blt last 0x130 || Nat.blt 0x130 first) &&
    (Nat.blt last 0xD800 || Nat.blt 0xDFFF first && Nat.blt last 0x110000)

/-- Whether a run has none of the numbers from `first` to `last` that are a number of steps behind
the first. -/
def misses (first last step : Nat) (r : CaseRun) : Bool :=
  Nat.blt r.2.1 first || Nat.blt last r.1 ||
    (r.2.2.1 == 2 && (step == 2 || first == last) && (first + r.1) % 2 == 1)

end CaseRun

/-- The capital whose small letter stands in ASCII. -/
def kelvinSign : CaseRun := (0x212A, 0x212A, 1, -8383)

theorem all_plain : (caseRuns.all fun r =>
    CaseRun.plain (r.small r.1) (r.small r.2.1) || r == kelvinSign) = true := by
  decide +kernel

theorem all_misses : (caseRuns.all fun r =>
    caseRuns.all (CaseRun.misses (r.small r.1) (r.small r.2.1) r.2.2.1)) = true := by
  decide +kernel

namespace CaseRun

variable {r s : CaseRun} {n : Nat}

theorem small_eq (positive : 0 < r.small r.1) (behind : r.1 ≤ n) :
    r.small n = r.small r.1 + (n - r.1) := by
  obtain ⟨first, last, step, distance⟩ := r
  simp only [small] at positive behind ⊢
  omega

theorem holds_iff :
    r.holds n = true ↔ r.1 ≤ n ∧ n ≤ r.2.1 ∧ (n - r.1) % r.2.2.1 = 0 := by
  simp [holds, and_assoc]

theorem plain_small (member : r ∈ caseRuns) (other : r ≠ kelvinSign) :
    plain (r.small r.1) (r.small r.2.1) = true := by
  have checked := List.all_eq_true.mp all_plain r member
  rwa [Bool.or_eq_true, beq_iff_eq, or_iff_left other] at checked

theorem bounds_small (member : r ∈ caseRuns) (other : r ≠ kelvinSign) (held : r.holds n = true) :
    0x80 ≤ r.small n ∧ r.small n ≠ 0x130 ∧ (r.small n).isValidChar := by
  have letters := plain_small member other
  rw [holds_iff] at held
  simp only [plain, Bool.and_eq_true, Bool.or_eq_true, Nat.ble_eq, Nat.blt_eq] at letters
  have positive : 0 < r.small r.1 := by omega
  rw [small_eq positive (Nat.le_trans held.1 held.2.1)] at letters
  rw [small_eq positive held.1, Nat.isValidChar]
  omega

/-- No small letter of a run is a capital. -/
theorem not_holds_small (member : r ∈ caseRuns) (other : r ≠ kelvinSign) (held : r.holds n = true)
    (member' : s ∈ caseRuns) : s.holds (r.small n) = false := by
  have letters := plain_small member other
  have checked := List.all_eq_true.mp (List.all_eq_true.mp all_misses r member) s member'
  rw [← Bool.not_eq_true]
  intro held'
  rw [holds_iff] at held held'
  simp only [plain, misses, Bool.and_eq_true, Bool.or_eq_true, Nat.ble_eq, Nat.blt_eq,
    beq_iff_eq] at letters checked
  have positive : 0 < r.small r.1 := by omega
  rw [small_eq positive (Nat.le_trans held.1 held.2.1)] at checked
  rw [small_eq positive held.1] at held'
  rcases checked with (below | above) | ⟨⟨twice, alternate⟩, apart⟩
  · omega
  · omega
  · rw [twice] at held'
    rcases alternate with alternate | single
    · rw [alternate] at held
      omega
    · omega

end CaseRun

/-- A character that is left as it is. -/
structure IsSmall (c : Char) : Prop where
  lowerChar_eq : lowerChar c = [c]
  ne_sigma : c ≠ '\u03A3'

theorem lowerChar_of_missed {c : Char} (beyond : ¬ c.toNat < 0x80) (notDotted : c ≠ '\u0130')
    (missed : ∀ r ∈ caseRuns, r.holds c.toNat = false) : lowerChar c = [c] := by
  have nothing : caseRuns.find? (fun r =>
      r.1 ≤ c.toNat && c.toNat ≤ r.2.1 && (c.toNat - r.1) % r.2.2.1 == 0) = none := by
    rw [List.find?_eq_none]
    intro r member
    exact ne_true_of_eq_false (missed r member)
  rw [lowerChar, if_neg beyond, if_neg notDotted, nothing]

/-- The capital sigma stands in the table. -/
theorem exists_holds_sigma : ∃ r ∈ caseRuns, r.holds 0x3A3 = true :=
  ⟨(0x3A3, 0x3AB, 1, 32), by decide +kernel, by decide⟩

theorem isSmall_of_missed {c : Char} (beyond : ¬ c.toNat < 0x80) (notDotted : c ≠ '\u0130')
    (missed : ∀ r ∈ caseRuns, r.holds c.toNat = false) : IsSmall c where
  lowerChar_eq := lowerChar_of_missed beyond notDotted missed
  ne_sigma := by
    rintro rfl
    rcases exists_holds_sigma with ⟨r, member, held⟩
    exact Bool.false_ne_true ((missed r member).symm.trans held)

theorem isSmall_ofNat_small {r : CaseRun} {n : Nat} (member : r ∈ caseRuns)
    (held : r.holds n = true) : IsSmall (Char.ofNat (r.small n)) := by
  by_cases other : r = kelvinSign
  · subst other
    rw [CaseRun.holds_iff] at held
    obtain rfl : n = 0x212A := Nat.le_antisymm held.2.1 held.1
    exact ⟨by decide, by decide⟩
  · rcases CaseRun.bounds_small member other held with ⟨beyond, notDotted, valid⟩
    have number : (Char.ofNat (r.small n)).toNat = r.small n := by
      rw [Char.ofNat, dif_pos valid]
      rfl
    apply isSmall_of_missed
    · rw [number]
      exact Nat.not_lt.mpr beyond
    · intro dotted
      rw [dotted] at number
      exact notDotted number.symm
    · intro s member'
      rw [number]
      exact CaseRun.not_holds_small member other held member'

/-- ASCII letters are written small within ASCII. -/
theorem isSmall_toLower {c : Char} (ascii : c.toNat < 0x80) : IsSmall c.toLower := by
  have smaller : ∀ n < 0x80, (Char.ofNat n).toLower.toNat < 0x80 ∧
      (Char.ofNat n).toLower.toLower = (Char.ofNat n).toLower := by
    decide
  have checked := smaller c.toNat ascii
  rw [Char.ofNat_toNat] at checked
  refine ⟨?_, ?_⟩
  · rw [lowerChar, if_pos checked.1, checked.2]
  · intro sigma
    rw [sigma] at checked
    exact absurd checked.1 (by decide)

theorem isSmall_of_mem_lowerChar {c small : Char} (member : small ∈ lowerChar c) :
    IsSmall small := by
  by_cases ascii : c.toNat < 0x80
  · rw [lowerChar, if_pos ascii, List.mem_singleton] at member
    rw [member]
    exact isSmall_toLower ascii
  · by_cases dotted : c = '\u0130'
    · rw [lowerChar, if_neg ascii, if_pos dotted] at member
      rcases List.mem_cons.mp member with rfl | member
      · exact ⟨by decide, by decide⟩
      · rw [List.mem_singleton.mp member]
        exact ⟨by decide +kernel, by decide⟩
    · rw [lowerChar, if_neg ascii, if_neg dotted] at member
      split at member
      · next r found =>
          have held := List.find?_some found
          rw [List.mem_singleton.mp member]
          exact isSmall_ofNat_small (List.mem_of_find?_eq_some found) held
      · next missing =>
          rw [List.mem_singleton.mp member]
          apply isSmall_of_missed ascii dotted
          intro r member'
          exact Bool.not_eq_true _ ▸ List.find?_eq_none.mp missing r member'

/-- All characters of a text in small letters are small. -/
theorem isSmall_of_mem_lowerList {before cs : List Char} {c : Char}
    (member : c ∈ lowerList before cs) : IsSmall c := by
  induction cs generalizing before with
  | nil => cases member
  | cons first rest inductionHypothesis =>
      rw [lowerList, List.mem_append] at member
      rcases member with here | later
      · by_cases sigma : first = '\u03A3'
        · rw [if_pos sigma, List.mem_singleton] at here
          rw [here]
          split
          · exact ⟨by decide +kernel, by decide⟩
          · exact ⟨by decide +kernel, by decide⟩
        · rw [if_neg sigma] at here
          exact isSmall_of_mem_lowerChar here
      · exact inductionHypothesis later

theorem lowerList_of_isSmall {cs : List Char} (small : ∀ c ∈ cs, IsSmall c) (before : List Char) :
    lowerList before cs = cs := by
  induction cs generalizing before with
  | nil => rfl
  | cons c cs inductionHypothesis =>
      rw [List.forall_mem_cons] at small
      rw [lowerList, if_neg small.1.ne_sigma, small.1.lowerChar_eq, inductionHypothesis small.2,
        List.singleton_append]

/-- A text in small letters is left as it is. -/
theorem lowercase_lowercase (s : String) : lowercase (lowercase s) = lowercase s := by
  rw [lowercase, lowercase, String.toList_ofList,
    lowerList_of_isSmall (fun _ member => isSmall_of_mem_lowerList member)]

end Text
end Folio
