import Folio.Proofs.Text.Line
import Folio.Text.Indent
import Mathlib.Data.List.TakeWhile

namespace Folio
namespace Text

/-!
# What lines lose with their indentation

The width that is dropped from all lines is told by a bound: a number is at most that width exactly
if every line that shows something begins with so many copies of the character of the indentation.
So no line that shows something loses anything else, one of them is left without indentation, and a
margin in front of all lines goes the way the indentation goes.

Dropping the indentation twice is the same as dropping it once, except where it is made of both
characters: when all lines that show something begin with the same number of spaces and a tab behind
them, or of tabs and a space, the second time drops what the first one has left.
-/

/-- Whether a line has a character that is no white space. -/
def IsShown (line : List Char) : Prop := isBlankText line = false

instance (line : List Char) : Decidable (IsShown line) := inferInstanceAs (Decidable (_ = _))

/-- The characters that a sample may be indented with. -/
def IsIndentChar (c : Char) : Prop := c = ' ' ∨ c = '\t'

instance (c : Char) : Decidable (IsIndentChar c) := inferInstanceAs (Decidable (_ ∨ _))

theorem IsIndentChar.isBlank {c : Char} (isIndent : IsIndentChar c) : isBlank c = true := by
  rcases isIndent with rfl | rfl <;> decide

theorem IsIndentChar.isOneLine_replicate {c : Char} (isIndent : IsIndentChar c) (n : Nat) :
    IsOneLine (List.replicate n c) := by
  rcases isIndent with rfl | rfl
  · exact Text.isOneLine_replicate (by decide) (by decide) n
  · exact Text.isOneLine_replicate (by decide) (by decide) n

/-- White space in front of a line does not change what the line shows. -/
theorem isShown_replicate_append {c : Char} (blank : isBlank c = true) (n : Nat)
    (line : List Char) : IsShown (List.replicate n c ++ line) ↔ IsShown line := by
  have margin : (List.replicate n c).all isBlank = true := by
    rw [List.all_eq_true]
    intro d member
    rw [List.eq_of_mem_replicate member, blank]
  rw [IsShown, IsShown, isBlankText, isBlankText, List.all_append, margin, Bool.true_and]

theorem IsShown.of_drop {line : List Char} {n : Nat} (shown : IsShown (line.drop n)) :
    IsShown line := by
  rw [IsShown, isBlankText, List.all_eq_false] at shown ⊢
  rcases shown with ⟨c, member, notBlank⟩
  exact ⟨c, List.mem_of_mem_drop member, notBlank⟩

/-- Whether the first of the lines that show something begins with a character. -/
def BeginsWith (c : Char) (lines : List (List Char)) : Prop :=
  ∃ before line after, lines = before ++ (c :: line) :: after ∧
    (∀ earlier ∈ before, ¬ IsShown earlier) ∧ IsShown (c :: line)

theorem indentChar?_eq_some_iff {c : Char} {lines : List (List Char)} :
    indentChar? lines = some c ↔ IsIndentChar c ∧ BeginsWith c lines := by
  rw [indentChar?]
  constructor
  · intro found
    split at found
    · next d line first =>
        split at found
        · next isIndent =>
            rw [← Option.some.inj found]
            rcases List.find?_eq_some_iff_append.mp first with
              ⟨shown, before, after, divided, blank⟩
            refine ⟨isIndent, before, line, after, divided, ?_, by simpa [IsShown] using shown⟩
            intro earlier member
            simpa [IsShown] using blank earlier member
        · cases found
    · cases found
  · rintro ⟨isIndent, before, line, after, divided, blank, shown⟩
    have first : lines.find? (fun line => !isBlankText line) = some (c :: line) := by
      rw [List.find?_eq_some_iff_append]
      refine ⟨by simpa [IsShown] using shown, before, after, divided, ?_⟩
      intro earlier member
      simpa [IsShown] using blank earlier member
    rw [first]
    exact if_pos isIndent

theorem indentWidth_replicate_append (c : Char) (n : Nat) (line : List Char) :
    indentWidth c (List.replicate n c ++ line) = n + indentWidth c line := by
  have margin : ∀ d ∈ List.replicate n c, (d == c) = true := by
    intro d member
    rw [List.eq_of_mem_replicate member, beq_self_eq_true]
  rw [indentWidth, List.takeWhile_append_of_pos margin, List.length_append, List.length_replicate,
    indentWidth]

theorem le_indentWidth_iff {c : Char} {n : Nat} {line : List Char} :
    n ≤ indentWidth c line ↔ List.replicate n c <+: line := by
  constructor
  · intro le
    have copies : line.takeWhile (· == c) = List.replicate (indentWidth c line) c := by
      rw [List.eq_replicate_iff]
      refine ⟨rfl, ?_⟩
      intro d member
      have copied := List.all_takeWhile (p := (· == c)) (l := line)
      exact beq_iff_eq.mp (List.all_eq_true.mp copied d member)
    have shorter : List.replicate n c <+: List.replicate (indentWidth c line) c :=
      ⟨List.replicate (indentWidth c line - n) c, by
        rw [List.replicate_append_replicate, Nat.add_sub_cancel' le]⟩
    exact (copies ▸ shorter).trans (List.takeWhile_prefix _)
  · rintro ⟨rest, rfl⟩
    rw [indentWidth_replicate_append]
    exact Nat.le_add_right n _

/-- The common width is the greatest one that all lines that show something have. -/
theorem le_commonWidth_iff {c : Char} {lines : List (List Char)}
    (shows : ∃ line ∈ lines, IsShown line) {n : Nat} :
    n ≤ commonWidth c lines ↔ ∀ line ∈ lines, IsShown line → n ≤ indentWidth c line := by
  have widths : ∀ width, width ∈ (lines.filter fun line => !isBlankText line).map (indentWidth c) ↔
      ∃ line ∈ lines, IsShown line ∧ indentWidth c line = width := by
    intro width
    simp [IsShown, and_assoc]
  cases least : ((lines.filter fun line => !isBlankText line).map (indentWidth c)).min? with
  | none =>
      rcases shows with ⟨line, member, shown⟩
      have inWidths := (widths _).mpr ⟨line, member, shown, rfl⟩
      rw [List.min?_eq_none_iff.mp least] at inWidths
      exact absurd inWidths List.not_mem_nil
  | some width =>
      rw [commonWidth, least, Option.getD_some, List.le_min?_iff least]
      constructor
      · intro bound line member shown
        exact bound _ ((widths _).mpr ⟨line, member, shown, rfl⟩)
      · intro bound other inWidths
        rcases (widths other).mp inWidths with ⟨line, member, shown, rfl⟩
        exact bound line member shown

section Common

variable {c : Char} {lines : List (List Char)}

theorem BeginsWith.shows (begins : BeginsWith c lines) : ∃ line ∈ lines, IsShown line := by
  rcases begins with ⟨before, line, after, rfl, -, shown⟩
  exact ⟨c :: line, by simp, shown⟩

/-- The common indentation is in front of every line that shows something. -/
theorem replicate_append_drop (shows : ∃ line ∈ lines, IsShown line) {line : List Char}
    (member : line ∈ lines) (shown : IsShown line) :
    line = List.replicate (commonWidth c lines) c ++ line.drop (commonWidth c lines) := by
  have bound := (le_commonWidth_iff (c := c) shows).mp (Nat.le_refl _) line member shown
  have front := List.prefix_iff_eq_append.mp (le_indentWidth_iff.mp bound)
  rw [List.length_replicate] at front
  exact front.symm

theorem isShown_drop_iff (isIndent : IsIndentChar c) (shows : ∃ line ∈ lines, IsShown line)
    {line : List Char} (member : line ∈ lines) :
    IsShown (line.drop (commonWidth c lines)) ↔ IsShown line := by
  constructor
  · exact IsShown.of_drop
  · intro shown
    have whole := replicate_append_drop (c := c) shows member shown
    rw [whole, isShown_replicate_append isIndent.isBlank] at shown
    exact shown

/-- A margin adds its width. -/
theorem commonWidth_margin (isIndent : IsIndentChar c) (shows : ∃ line ∈ lines, IsShown line)
    (k : Nat) :
    commonWidth c (lines.map (List.replicate k c ++ ·)) = k + commonWidth c lines := by
  have isShown := isShown_replicate_append isIndent.isBlank k
  have showsToo : ∃ line ∈ lines.map (List.replicate k c ++ ·), IsShown line := by
    rcases shows with ⟨line, member, shown⟩
    exact ⟨_, List.mem_map_of_mem member, (isShown line).mpr shown⟩
  -- Both numbers have the same numbers below them.
  have bound : ∀ n, n ≤ commonWidth c (lines.map (List.replicate k c ++ ·)) ↔
      n ≤ k + commonWidth c lines := by
    intro n
    rw [le_commonWidth_iff showsToo, ← Nat.sub_le_iff_le_add', le_commonWidth_iff shows,
      List.forall_mem_map]
    apply forall₂_congr
    intro line member
    rw [isShown, indentWidth_replicate_append, Nat.sub_le_iff_le_add']
  exact Nat.le_antisymm ((bound _).mp (Nat.le_refl _)) ((bound _).mpr (Nat.le_refl _))

end Common

section Removal

variable {s : String} {c : Char}

theorem removeCommonIndent_of_none (none : indentChar? (anyEndLines s.toList) = none) :
    removeCommonIndent s = s := by
  rw [removeCommonIndent, none]

theorem removeCommonIndent_of_some (found : indentChar? (anyEndLines s.toList) = some c) :
    removeCommonIndent s = String.ofList (joinLines ((anyEndLines s.toList).map
      (·.drop (commonWidth c (anyEndLines s.toList))))) := by
  rw [removeCommonIndent, found]

/-- The lines of what is left are the lines that there were, each without the common width. -/
theorem anyEndLines_removeCommonIndent
    (found : indentChar? (anyEndLines s.toList) = some c) :
    anyEndLines (removeCommonIndent s).toList =
      (anyEndLines s.toList).map (·.drop (commonWidth c (anyEndLines s.toList))) := by
  rw [removeCommonIndent_of_some found, String.toList_ofList]
  apply anyEndLines_joinLines
  · simpa using anyEndLines_ne_nil s.toList
  · intro line member
    rcases List.mem_map.mp member with ⟨whole, isLine, rfl⟩
    exact (isOneLine_of_mem_anyEndLines isLine).drop _

/-- One of the lines that show something is left without indentation. -/
theorem exists_not_begins {lines : List (List Char)}
    (shows : ∃ line ∈ lines, IsShown line) :
    ∃ line ∈ lines, IsShown line ∧ (line.drop (commonWidth c lines)).head? ≠ some c := by
  by_contra all
  push Not at all
  have wider : commonWidth c lines + 1 ≤ commonWidth c lines := by
    rw [le_commonWidth_iff shows]
    intro line member shown
    rcases List.head?_eq_some_iff.mp (all line member shown) with ⟨rest, left⟩
    have whole := replicate_append_drop (c := c) shows member shown
    rw [left, ← List.singleton_append, ← List.append_assoc, ← List.replicate_succ'] at whole
    exact le_indentWidth_iff.mpr ⟨rest, whole.symm⟩
  omega

end Removal

/-- A text with a margin in front of all its lines but the first. -/
def hang (margin : List Char) : List Char → List Char
  | [] => []
  | '\r' :: '\n' :: rest => '\r' :: '\n' :: (margin ++ hang margin rest)
  | c :: rest =>
    if c = '\n' ∨ c = '\r' then c :: (margin ++ hang margin rest) else c :: hang margin rest

/-- A text with a margin in front of all its lines.  Its line ends are kept as they are. -/
def withMargin (margin cs : List Char) : List Char := margin ++ hang margin cs

theorem head?_hang (margin cs : List Char) : (hang margin cs).head? = cs.head? := by
  fun_cases hang margin cs <;> rfl

/-- The first line of a text is left alone, and the margin is in front of the others. -/
theorem exists_anyEndLines_hang {margin : List Char} (oneLine : IsOneLine margin)
    (cs : List Char) : ∃ first others, anyEndLines cs = first :: others ∧
      anyEndLines (hang margin cs) = first :: others.map (margin ++ ·) := by
  fun_induction hang margin cs with
  | case1 => exact ⟨[], [], rfl, rfl⟩
  | case2 rest inductionHypothesis =>
      rcases inductionHypothesis with ⟨first, others, before, behind⟩
      refine ⟨[], first :: others, by rw [anyEndLines, before], ?_⟩
      rw [anyEndLines, anyEndLines_append oneLine, behind]
      rfl
  | case3 c rest notBoth lineEnd inductionHypothesis =>
      rcases inductionHypothesis with ⟨first, others, before, behind⟩
      have aloneBefore : c = '\r' → rest.head? ≠ some '\n' := by
        intro isReturn feed
        rcases List.head?_eq_some_iff.mp feed with ⟨rest', divided⟩
        exact notBoth rest' isReturn divided
      have aloneBehind : c = '\r' → (margin ++ hang margin rest).head? ≠ some '\n' := by
        intro isReturn feed
        cases margin with
        | nil => exact aloneBefore isReturn ((head?_hang [] rest).symm.trans feed)
        | cons d margin =>
            rw [List.cons_append, List.head?_cons] at feed
            exact (isOneLine_cons_iff.mp oneLine).1.1 (Option.some.inj feed)
      refine ⟨[], first :: others, by rw [anyEndLines_cons_end lineEnd aloneBefore, before], ?_⟩
      rw [anyEndLines_cons_end lineEnd aloneBehind, anyEndLines_append oneLine, behind]
      rfl
  | case4 c rest _ inside inductionHypothesis =>
      rcases inductionHypothesis with ⟨first, others, before, behind⟩
      rcases not_or.mp inside with ⟨notFeed, notReturn⟩
      refine ⟨c :: first, others, ?_, ?_⟩
      · rw [anyEndLines_cons_of_ne notFeed notReturn, before, List.modifyHead_cons]
      · rw [anyEndLines_cons_of_ne notFeed notReturn, behind, List.modifyHead_cons]

theorem anyEndLines_withMargin {margin : List Char} (oneLine : IsOneLine margin)
    (cs : List Char) :
    anyEndLines (withMargin margin cs) = (anyEndLines cs).map (margin ++ ·) := by
  rcases exists_anyEndLines_hang oneLine cs with ⟨first, others, before, behind⟩
  rw [withMargin, anyEndLines_append oneLine, behind, before]
  rfl

/-- A text behind a margin begins with the character of the margin if it begins with it anyway. -/
theorem BeginsWith.margin {c : Char} {lines : List (List Char)} (begins : BeginsWith c lines)
    (isIndent : IsIndentChar c) (k : Nat) :
    BeginsWith c (lines.map (List.replicate k c ++ ·)) := by
  rcases begins with ⟨before, line, after, divided, blank, shown⟩
  have moved : List.replicate k c ++ c :: line = c :: (List.replicate k c ++ line) := by
    rw [← List.singleton_append, ← List.append_assoc, ← List.replicate_succ',
      List.replicate_succ, List.cons_append]
  refine ⟨before.map (List.replicate k c ++ ·), List.replicate k c ++ line,
    after.map (List.replicate k c ++ ·), ?_, ?_, ?_⟩
  · rw [divided, List.map_append, List.map_cons, moved]
  · rw [List.forall_mem_map]
    intro earlier member
    rw [isShown_replicate_append isIndent.isBlank]
    exact blank earlier member
  · rw [← moved, isShown_replicate_append isIndent.isBlank]
    exact shown

/-- A margin of the character that a text is indented with goes with the indentation. -/
theorem removeCommonIndent_withMargin {s : String} {c : Char}
    (found : indentChar? (anyEndLines s.toList) = some c) (k : Nat) :
    removeCommonIndent (String.ofList (withMargin (List.replicate k c) s.toList)) =
      removeCommonIndent s := by
  rcases indentChar?_eq_some_iff.mp found with ⟨isIndent, begins⟩
  have lines := anyEndLines_withMargin (isIndent.isOneLine_replicate k) s.toList
  have whole : indentChar? (anyEndLines
      (String.ofList (withMargin (List.replicate k c) s.toList)).toList) = some c := by
    rw [String.toList_ofList, lines, indentChar?_eq_some_iff]
    exact ⟨isIndent, begins.margin isIndent k⟩
  rw [removeCommonIndent_of_some whole, removeCommonIndent_of_some found, String.toList_ofList,
    lines, commonWidth_margin isIndent begins.shows, List.map_map]
  congr 3
  funext line
  rw [Function.comp_apply, ← List.drop_drop, List.drop_left' List.length_replicate]

/-! ## What removal does -/

/-- Removal drops one width from every line of a text whose first line that shows something begins
with a space or a tab, and writes the lines with line feeds.  Lines that show something lose copies
of that character only, and one of them has none left in front; what a margin of that character adds
is dropped too.  Every other text stays as it is. -/
theorem removeCommonIndent_strips (s : String) :
    (∀ c, IsIndentChar c → BeginsWith c (anyEndLines s.toList) → ∃ width,
      removeCommonIndent s =
        String.ofList (joinLines ((anyEndLines s.toList).map (·.drop width))) ∧
      anyEndLines (removeCommonIndent s).toList = (anyEndLines s.toList).map (·.drop width) ∧
      (∀ line ∈ anyEndLines s.toList, IsShown line →
        line = List.replicate width c ++ line.drop width) ∧
      (∃ line ∈ anyEndLines (removeCommonIndent s).toList, IsShown line ∧ line.head? ≠ some c) ∧
      (∀ line ∈ anyEndLines s.toList, ¬ IsShown line → line.length ≤ width →
        line.drop width = []) ∧
      ∀ k, removeCommonIndent (String.ofList (withMargin (List.replicate k c) s.toList)) =
        removeCommonIndent s) ∧
    ((¬ ∃ c, IsIndentChar c ∧ BeginsWith c (anyEndLines s.toList)) → removeCommonIndent s = s) := by
  constructor
  · intro c isIndent begins
    have found := indentChar?_eq_some_iff.mpr ⟨isIndent, begins⟩
    have left := anyEndLines_removeCommonIndent found
    have written := removeCommonIndent_of_some found
    refine ⟨commonWidth c (anyEndLines s.toList), written, left, ?_, ?_, ?_, ?_⟩
    · intro line member shown
      exact replicate_append_drop begins.shows member shown
    · rcases exists_not_begins (c := c) begins.shows with ⟨line, member, shown, bare⟩
      refine ⟨line.drop (commonWidth c (anyEndLines s.toList)), ?_, ?_, bare⟩
      · rw [left]
        exact List.mem_map_of_mem member
      · exact (isShown_drop_iff isIndent begins.shows member).mpr shown
    · intro line _ _ short
      exact List.drop_eq_nil_of_le short
    · exact removeCommonIndent_withMargin found
  · intro unindented
    apply removeCommonIndent_of_none
    rw [Option.eq_none_iff_forall_ne_some]
    intro c found
    exact unindented ⟨c, indentChar?_eq_some_iff.mp found⟩

/-- A text with all three line ends, a blank line shorter than the indentation and one longer. -/
def unevenSample : String := " \r\n  é\r    b\n\n     "

theorem removeCommonIndent_strips_unevenSample :
    IsIndentChar ' ' ∧ BeginsWith ' ' (anyEndLines unevenSample.toList) ∧
      removeCommonIndent (String.ofList (withMargin (List.replicate 3 ' ') unevenSample.toList)) =
        "\né\n  b\n\n   " ∧
      (¬ ∃ c, IsIndentChar c ∧ BeginsWith c (anyEndLines "a\r\n b".toList)) ∧
      removeCommonIndent "a\r\n b" = "a\r\n b" := by
  have begins : IsIndentChar ' ' ∧ BeginsWith ' ' (anyEndLines unevenSample.toList) :=
    indentChar?_eq_some_iff.mp (by decide +kernel)
  have unindented : ¬ ∃ c, IsIndentChar c ∧ BeginsWith c (anyEndLines "a\r\n b".toList) := by
    rintro ⟨c, begins⟩
    have none : indentChar? (anyEndLines "a\r\n b".toList) = none := by decide +kernel
    cases none.symm.trans (indentChar?_eq_some_iff.mpr begins)
  rcases (removeCommonIndent_strips unevenSample).1 ' ' begins.1 begins.2 with
    ⟨-, -, -, -, -, -, margins⟩
  refine ⟨begins.1, begins.2, (margins 3).trans ?_, unindented,
    (removeCommonIndent_strips "a\r\n b").2 unindented⟩
  decide +kernel

/-! ## Removal once and twice -/

/-- Whether all lines that show something begin with the same character of indentation. -/
def SharesIndent (c : Char) (lines : List (List Char)) : Prop :=
  IsIndentChar c ∧ (∃ line ∈ lines, IsShown line) ∧
    ∀ line ∈ lines, IsShown line → line.head? = some c

/-- Whether all lines that show something begin with a run of one character of indentation, equally
long on all of them, and the other character behind it. -/
structure MixesIndent (c d : Char) (width : Nat) (lines : List (List Char)) : Prop where
  first : IsIndentChar c
  second : IsIndentChar d
  different : c ≠ d
  positive : 0 < width
  shows : ∃ line ∈ lines, IsShown line
  begins : ∀ line ∈ lines, IsShown line → List.replicate width c ++ [d] <+: line

theorem exists_first_shown {lines : List (List Char)} (shows : ∃ line ∈ lines, IsShown line) :
    ∃ before line after, lines = before ++ line :: after ∧
      (∀ earlier ∈ before, ¬ IsShown earlier) ∧ IsShown line := by
  rcases shows with ⟨line, member, shown⟩
  cases first : lines.find? (fun line => decide (IsShown line)) with
  | none => exact absurd shown (by simpa using List.find?_eq_none.mp first line member)
  | some found =>
      rcases List.find?_eq_some_iff_append.mp first with ⟨isShown, before, after, divided, blank⟩
      exact ⟨before, found, after, divided, by simpa using blank, by simpa using isShown⟩

section Twice

variable {c d : Char} {lines : List (List Char)}

theorem SharesIndent.indentChar? (shares : SharesIndent c lines) :
    indentChar? lines = some c := by
  rcases shares with ⟨isIndent, shows, begin⟩
  rcases exists_first_shown shows with ⟨before, line, after, rfl, blank, shown⟩
  rcases List.head?_eq_some_iff.mp (begin line (by simp) shown) with ⟨rest, rfl⟩
  exact indentChar?_eq_some_iff.mpr ⟨isIndent, before, rest, after, rfl, blank, shown⟩

theorem one_le_commonWidth_iff (isIndent : IsIndentChar c) (shows : ∃ line ∈ lines, IsShown line) :
    1 ≤ commonWidth c lines ↔ SharesIndent c lines := by
  have begins : ∀ line : List Char, 1 ≤ indentWidth c line ↔ line.head? = some c := by
    intro line
    rw [le_indentWidth_iff, List.head?_eq_some_iff]
    exact ⟨fun ⟨rest, whole⟩ => ⟨rest, whole.symm⟩, fun ⟨rest, whole⟩ => ⟨rest, whole.symm⟩⟩
  rw [le_commonWidth_iff shows, SharesIndent, and_iff_right isIndent, and_iff_right shows]
  simp only [begins]

/-- A text with line feeds only stays as it is, unless all its lines share an indentation. -/
theorem removeCommonIndent_joinLines_eq_iff (nonempty : lines ≠ [])
    (oneLine : ∀ line ∈ lines, IsOneLine line) :
    removeCommonIndent (String.ofList (joinLines lines)) = String.ofList (joinLines lines) ↔
      ¬ ∃ c, SharesIndent c lines := by
  have same : anyEndLines (String.ofList (joinLines lines)).toList = lines := by
    rw [String.toList_ofList, anyEndLines_joinLines nonempty oneLine]
  cases found : indentChar? lines with
  | none =>
      rw [removeCommonIndent_of_none (by rw [same, found])]
      refine iff_of_true rfl ?_
      rintro ⟨c, shares⟩
      cases found.symm.trans shares.indentChar?
  | some c =>
      rcases indentChar?_eq_some_iff.mp found with ⟨isIndent, begins⟩
      have foundToo : indentChar? (anyEndLines (String.ofList (joinLines lines)).toList) = some c :=
        by rw [same, found]
      constructor
      · rintro unchanged ⟨d, shares⟩
        have equal : d = c := Option.some.inj (shares.indentChar?.symm.trans found)
        have positive := (one_le_commonWidth_iff isIndent begins.shows).mpr (equal ▸ shares)
        have left := anyEndLines_removeCommonIndent foundToo
        rw [unchanged, same] at left
        -- A line that shows something would be as long as without its indentation.
        rcases begins.shows with ⟨line, member, shown⟩
        have kept := List.map_inj_left.mp (left.symm.trans (List.map_id lines).symm) line member
        have whole := replicate_append_drop (c := c) begins.shows member shown
        have long := congrArg List.length whole
        rw [kept, id_eq, List.length_append, List.length_replicate] at long
        omega
      · intro noneShared
        have zero : commonWidth c lines = 0 := by
          by_contra positive
          exact noneShared ⟨c, (one_le_commonWidth_iff isIndent begins.shows).mp
            (Nat.one_le_iff_ne_zero.mpr positive)⟩
        rw [removeCommonIndent_of_some foundToo, same, zero]
        simp

/-- Lines without their common indentation share another one exactly if it stands behind that of
each line that shows something. -/
theorem sharesIndent_drop_iff (isIndent : IsIndentChar c) (shows : ∃ line ∈ lines, IsShown line) :
    SharesIndent d (lines.map (·.drop (commonWidth c lines))) ↔ IsIndentChar d ∧
      ∀ line ∈ lines, IsShown line → List.replicate (commonWidth c lines) c ++ [d] <+: line := by
  have showsToo : ∃ line ∈ lines.map (·.drop (commonWidth c lines)), IsShown line := by
    rcases shows with ⟨line, member, shown⟩
    refine ⟨_, List.mem_map_of_mem member, ?_⟩
    exact (isShown_drop_iff isIndent ⟨line, member, shown⟩ member).mpr shown
  rw [SharesIndent, and_iff_right showsToo, List.forall_mem_map]
  apply and_congr_right
  intro _
  apply forall₂_congr
  intro line member
  rw [isShown_drop_iff isIndent shows member]
  apply forall_congr'
  intro shown
  have whole := replicate_append_drop (c := c) shows member shown
  rw [List.head?_eq_some_iff]
  constructor
  · rintro ⟨rest, left⟩
    exact ⟨rest, by rw [List.append_assoc, List.singleton_append, ← left, ← whole]⟩
  · rintro ⟨rest, divided⟩
    refine ⟨rest, ?_⟩
    rw [List.append_assoc, List.singleton_append] at divided
    exact (List.append_cancel_left (divided.trans whole)).symm

theorem MixesIndent.sharesIndent {width : Nat} (mixed : MixesIndent c d width lines) :
    SharesIndent c lines := by
  refine ⟨mixed.first, mixed.shows, ?_⟩
  intro line member shown
  rcases mixed.begins line member shown with ⟨rest, rfl⟩
  rcases Nat.exists_eq_succ_of_ne_zero (Nat.ne_of_gt mixed.positive) with ⟨more, rfl⟩
  rfl

/-- The width of a mixed indentation is that of its first run. -/
theorem MixesIndent.commonWidth_eq {width : Nat} (mixed : MixesIndent c d width lines) :
    commonWidth c lines = width := by
  apply Nat.le_antisymm
  · -- One more copy of the character would stand where the other character is.
    by_contra wider
    have bound := (le_commonWidth_iff (c := c) mixed.shows).mp (Nat.lt_of_not_le wider)
    rcases mixed.shows with ⟨line, member, shown⟩
    have copies := le_indentWidth_iff.mp (bound line member shown)
    rw [Nat.succ_eq_add_one, List.replicate_succ'] at copies
    have ends := (List.prefix_of_prefix_length_le copies (mixed.begins line member shown)
      (by simp)).eq_of_length (by simp)
    exact mixed.different (List.cons.inj (List.append_cancel_left ends)).1
  · rw [le_commonWidth_iff mixed.shows]
    intro line member shown
    exact le_indentWidth_iff.mpr
      ((List.prefix_append _ _).trans (mixed.begins line member shown))

/-- What removal leaves of an indentation is another one exactly if the indentation was mixed. -/
theorem exists_sharesIndent_drop_iff (isIndent : IsIndentChar c) (begins : BeginsWith c lines) :
    (∃ d, SharesIndent d (lines.map (·.drop (commonWidth c lines)))) ↔
      ∃ c d width, MixesIndent c d width lines := by
  have shows := begins.shows
  constructor
  · rintro ⟨d, shares⟩
    rcases (sharesIndent_drop_iff isIndent shows).mp shares with ⟨second, behind⟩
    have different : c ≠ d := by
      rintro rfl
      rcases exists_not_begins (c := c) shows with ⟨line, member, shown, bare⟩
      refine bare (shares.2.2 _ (List.mem_map_of_mem member) ?_)
      exact (isShown_drop_iff isIndent shows member).mpr shown
    have positive : 0 < commonWidth c lines := by
      rw [Nat.pos_iff_ne_zero]
      intro zero
      rw [zero] at shares
      have unchanged : lines.map (·.drop 0) = lines := List.map_id lines
      rw [unchanged] at shares
      exact different (Option.some.inj ((indentChar?_eq_some_iff.mpr ⟨isIndent, begins⟩).symm.trans
        shares.indentChar?))
    exact ⟨c, d, commonWidth c lines, isIndent, second, different, positive, shows, behind⟩
  · rintro ⟨c', d, width, mixed⟩
    have equal : c' = c := Option.some.inj (mixed.sharesIndent.indentChar?.symm.trans
      (indentChar?_eq_some_iff.mpr ⟨isIndent, begins⟩))
    subst equal
    refine ⟨d, (sharesIndent_drop_iff isIndent shows).mpr ⟨mixed.second, ?_⟩⟩
    rw [mixed.commonWidth_eq]
    exact mixed.begins

end Twice

/-- Removing the common indentation twice does what removing it once does, exactly if the text has
no mixed indentation. -/
theorem removeCommonIndent_twice_iff (s : String) :
    removeCommonIndent (removeCommonIndent s) = removeCommonIndent s ↔
      ¬ ∃ c d width, MixesIndent c d width (anyEndLines s.toList) := by
  cases found : indentChar? (anyEndLines s.toList) with
  | none =>
      have unchanged := removeCommonIndent_of_none found
      refine iff_of_true (by rw [unchanged, unchanged]) ?_
      rintro ⟨c, d, width, mixed⟩
      cases found.symm.trans mixed.sharesIndent.indentChar?
  | some c =>
      rcases indentChar?_eq_some_iff.mp found with ⟨isIndent, begins⟩
      have oneLine : ∀ line ∈ anyEndLines (removeCommonIndent s).toList, IsOneLine line := by
        intro line member
        exact isOneLine_of_mem_anyEndLines member
      have left := anyEndLines_removeCommonIndent found
      have written : removeCommonIndent s =
          String.ofList (joinLines (anyEndLines (removeCommonIndent s).toList)) := by
        rw [left, removeCommonIndent_of_some found]
      rw [written, removeCommonIndent_joinLines_eq_iff (anyEndLines_ne_nil _) oneLine, left,
        exists_sharesIndent_drop_iff isIndent begins]

/-- A tab behind a space is taken for an indentation once the space is gone. -/
theorem not_forall_removeCommonIndent_twice :
    ¬ ∀ s : String, removeCommonIndent (removeCommonIndent s) = removeCommonIndent s := by
  intro claimed
  have again := claimed " \tx"
  revert again
  decide +kernel

end Text
end Folio
