import Folio.Text.Line
import Mathlib.Data.List.Infix

namespace Folio
namespace Text

/-!
# Lines and the texts made of them

Lines without line ends in them are found again in the text that joins them, in either reading of
that text, so a text that is written line by line is told by its lines alone.  The two readings
differ on carriage returns only: in one they end a line, in the other one of them is dropped from
the end of a line.
-/

theorem not_mem_of_mem_splitOn {α : Type} [BEq α] [LawfulBEq α] {x : α} {xs part : List α}
    (member : part ∈ xs.splitOn x) : x ∉ part := by
  induction xs generalizing part with
  | nil => simp_all
  | cons y ys inductionHypothesis =>
      rw [List.splitOn_cons_eq_if_modifyHead] at member
      split at member
      · rcases List.mem_cons.mp member with rfl | later
        · exact List.not_mem_nil
        · exact inductionHypothesis later
      · next different =>
          rcases List.exists_cons_of_ne_nil (List.splitOn_ne_nil x ys) with ⟨first, rest, cut⟩
          rw [cut] at member inductionHypothesis
          rcases List.mem_cons.mp member with rfl | later
          · intro inside
            rcases List.mem_cons.mp inside with rfl | inside
            · simp at different
            · exact inductionHypothesis List.mem_cons_self inside
          · exact inductionHypothesis (List.mem_cons_of_mem first later)

theorem lineFeedLines_joinLines {lines : List (List Char)} (nonempty : lines ≠ [])
    (oneLine : ∀ line ∈ lines, '\n' ∉ line) : lineFeedLines (joinLines lines) = lines :=
  List.splitOn_intercalate '\n' oneLine nonempty

theorem length_joinLines_cons (line : List Char) (lines : List (List Char)) :
    (joinLines (line :: lines)).length =
      line.length + if lines = [] then 0 else (joinLines lines).length + 1 := by
  cases lines with
  | nil => simp [joinLines]
  | cons next rest =>
      rw [joinLines, List.intercalate_cons_cons, if_neg (List.cons_ne_nil next rest), joinLines]
      simp only [List.length_append, List.length_singleton]
      omega

/-- A line that shows something makes a text longer. -/
theorem length_joinLines_lt {line : List Char} (nonempty : line ≠ [])
    (front back : List (List Char)) :
    (joinLines (front ++ back)).length < (joinLines (front ++ line :: back)).length := by
  have positive : 0 < line.length := List.length_pos_of_ne_nil nonempty
  induction front with
  | nil =>
      rw [List.nil_append, List.nil_append, length_joinLines_cons]
      split
      · next none => rw [none]; simpa [joinLines] using positive
      · omega
  | cons first front inductionHypothesis =>
      rw [List.cons_append, List.cons_append, length_joinLines_cons, length_joinLines_cons]
      have longer : front ++ line :: back ≠ [] := by simp
      rw [if_neg longer]
      split <;> omega

/-- A carriage return at the end of a line is in no text that ends otherwise. -/
theorem infix_dropFinalReturn_iff {pattern : List Char} {c : Char} (other : c ≠ '\r')
    (line : List Char) :
    pattern ++ [c] <:+: dropFinalReturn line ↔ pattern ++ [c] <:+: line := by
  rw [dropFinalReturn]
  split
  · next ended =>
      have whole := List.dropLast_append_getLast? '\r' ended
      constructor
      · intro inside
        exact inside.trans (List.dropLast_prefix line).isInfix
      · rintro ⟨before, after, divided⟩
        rcases List.eq_nil_or_concat after with rfl | ⟨after, last, rfl⟩
        · -- The two texts end with different characters.
          rw [List.append_nil, ← List.append_assoc, ← whole] at divided
          have same := (List.append_inj' divided rfl).2
          exact absurd (List.cons.inj same).1 other
        · rw [List.concat_eq_append, ← List.append_assoc, ← whole] at divided
          exact ⟨before, after, (List.append_inj' divided rfl).1⟩
  · exact Iff.rfl

/-! ## Line ends of any kind -/

/-- Whether no line end of any kind is in a line. -/
def IsOneLine (line : List Char) : Prop := '\n' ∉ line ∧ '\r' ∉ line

theorem isOneLine_cons_iff {c : Char} {line : List Char} :
    IsOneLine (c :: line) ↔ (c ≠ '\n' ∧ c ≠ '\r') ∧ IsOneLine line := by
  unfold IsOneLine
  rw [List.mem_cons, List.mem_cons, not_or, not_or]
  constructor
  · rintro ⟨⟨notFeed, feedless⟩, notReturn, returnless⟩
    exact ⟨⟨Ne.symm notFeed, Ne.symm notReturn⟩, feedless, returnless⟩
  · rintro ⟨⟨notFeed, notReturn⟩, feedless, returnless⟩
    exact ⟨⟨Ne.symm notFeed, feedless⟩, Ne.symm notReturn, returnless⟩

theorem IsOneLine.drop {line : List Char} (oneLine : IsOneLine line) (n : Nat) :
    IsOneLine (line.drop n) :=
  ⟨fun feed => oneLine.1 (List.mem_of_mem_drop feed),
    fun ret => oneLine.2 (List.mem_of_mem_drop ret)⟩

theorem isOneLine_replicate {c : Char} (notFeed : c ≠ '\n') (notReturn : c ≠ '\r') (n : Nat) :
    IsOneLine (List.replicate n c) :=
  ⟨fun feed => notFeed (List.eq_of_mem_replicate feed).symm,
    fun ret => notReturn (List.eq_of_mem_replicate ret).symm⟩

/-- A line end ends a line, unless it is a carriage return that a line feed follows. -/
theorem anyEndLines_cons_end {c : Char} (lineEnd : c = '\n' ∨ c = '\r') {rest : List Char}
    (alone : c = '\r' → rest.head? ≠ some '\n') :
    anyEndLines (c :: rest) = [] :: anyEndLines rest := by
  rw [anyEndLines]
  · rw [if_pos lineEnd]
  · intro rest' isReturn equal
    exact alone isReturn (by rw [equal]; rfl)

theorem anyEndLines_cons_of_ne {c : Char} (notFeed : c ≠ '\n') (notReturn : c ≠ '\r')
    (rest : List Char) : anyEndLines (c :: rest) = (anyEndLines rest).modifyHead (c :: ·) := by
  rw [anyEndLines]
  · rw [if_neg (not_or.mpr ⟨notFeed, notReturn⟩)]
  · intro rest' isReturn
    exact absurd isReturn notReturn

/-- What is written in front of a text is on its first line. -/
theorem anyEndLines_append {front : List Char} (oneLine : IsOneLine front) (cs : List Char) :
    anyEndLines (front ++ cs) = (anyEndLines cs).modifyHead (front ++ ·) := by
  induction front with
  | nil => exact (congrFun List.modifyHead_id (anyEndLines cs)).symm
  | cons c front inductionHypothesis =>
      rcases isOneLine_cons_iff.mp oneLine with ⟨⟨notFeed, notReturn⟩, later⟩
      rw [List.cons_append, anyEndLines_cons_of_ne notFeed notReturn, inductionHypothesis later,
        List.modifyHead_modifyHead]
      rfl

theorem isOneLine_of_mem_anyEndLines {cs line : List Char} (member : line ∈ anyEndLines cs) :
    IsOneLine line := by
  fun_induction anyEndLines cs generalizing line with
  | case1 =>
      rw [List.mem_singleton.mp member]
      exact ⟨List.not_mem_nil, List.not_mem_nil⟩
  | case2 rest inductionHypothesis =>
      rcases List.mem_cons.mp member with rfl | later
      · exact ⟨List.not_mem_nil, List.not_mem_nil⟩
      · exact inductionHypothesis later
  | case3 c rest _ _ inductionHypothesis =>
      rcases List.mem_cons.mp member with rfl | later
      · exact ⟨List.not_mem_nil, List.not_mem_nil⟩
      · exact inductionHypothesis later
  | case4 c rest _ inside inductionHypothesis =>
      rcases List.exists_cons_of_ne_nil (anyEndLines_ne_nil rest) with ⟨first, others, divided⟩
      rw [divided] at member inductionHypothesis
      rcases List.mem_cons.mp member with rfl | later
      · exact isOneLine_cons_iff.mpr
          ⟨not_or.mp inside, inductionHypothesis List.mem_cons_self⟩
      · exact inductionHypothesis (List.mem_cons_of_mem first later)

theorem anyEndLines_joinLines {lines : List (List Char)} (nonempty : lines ≠ [])
    (oneLine : ∀ line ∈ lines, IsOneLine line) : anyEndLines (joinLines lines) = lines := by
  induction lines with
  | nil => exact absurd rfl nonempty
  | cons line lines inductionHypothesis =>
      have here := anyEndLines_append (oneLine line List.mem_cons_self)
      cases lines with
      | nil =>
          have last := here []
          rw [List.append_nil, anyEndLines, List.modifyHead_cons, List.append_nil] at last
          rw [joinLines, List.intercalate_singleton, last]
      | cons next rest =>
          have later := inductionHypothesis (List.cons_ne_nil next rest) fun other member =>
            oneLine other (List.mem_cons_of_mem line member)
          have joined : joinLines (line :: next :: rest) =
              line ++ '\n' :: joinLines (next :: rest) := by
            rw [joinLines, List.intercalate_cons_cons, List.append_assoc]
            rfl
          have ended : anyEndLines ('\n' :: joinLines (next :: rest)) =
              [] :: anyEndLines (joinLines (next :: rest)) :=
            anyEndLines_cons_end (Or.inl rfl) fun impossible => by cases impossible
          rw [joined, here, ended, later, List.modifyHead_cons, List.append_nil]

end Text
end Folio
