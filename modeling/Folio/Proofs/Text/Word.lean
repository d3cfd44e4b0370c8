import Folio.Text.Blank
import Mathlib.Data.List.Chain
import Mathlib.Data.List.TakeWhile

namespace Folio
namespace Text

/-!
# The words of texts put together

White space splits a text into its words, and every law of words here follows from one equation:
the words in front of a white space and those behind it are the words of the whole.  So normal text
has the words of the text that it was made of.

Two texts that are put together keep their words unless they meet letter to letter.  Then the last
word of the first and the first word of the second become one.  Of any number of texts all words are
kept exactly if no two of them meet like that, where what stands between may only be empty texts.
-/

theorem wordList_append_cons {c : Char} (blank : isBlank c = true) (front back : List Char) :
    wordList (front ++ c :: back) = wordList front ++ wordList back := by
  rw [wordList, List.splitOnP_append_cons front back blank, List.filter_append]
  rfl

@[simp] theorem wordList_nil : wordList [] = [] := by
  rw [wordList, List.splitOnP_nil]
  rfl

theorem wordList_cons_blank {c : Char} (blank : isBlank c = true) (cs : List Char) :
    wordList (c :: cs) = wordList cs := by
  simpa using wordList_append_cons blank [] cs

/-- Whether a text is a word: not empty, and without white space. -/
structure IsWord (cs : List Char) : Prop where
  nonempty : cs ≠ []
  letters : ∀ c ∈ cs, isBlank c = false

namespace IsWord

variable {word next : List Char}

theorem wordList_eq (isWord : IsWord word) : wordList word = [word] := by
  rw [wordList, List.splitOnP_eq_singleton isWord.letters]
  simp [isWord.nonempty]

theorem append (isWord : IsWord word) (isNext : IsWord next) : IsWord (word ++ next) where
  nonempty := List.append_ne_nil_of_left_ne_nil isWord.nonempty next
  letters := List.forall_mem_append.mpr ⟨isWord.letters, isNext.letters⟩

end IsWord

theorem isWord_of_mem_wordList {cs word : List Char} (member : word ∈ wordList cs) :
    IsWord word := by
  by_cases letters : ∀ c ∈ cs, isBlank c = false
  · by_cases empty : cs = []
    · subst empty
      rw [wordList_nil] at member
      cases member
    · have isWord : IsWord cs := ⟨empty, letters⟩
      rw [isWord.wordList_eq] at member
      exact List.mem_singleton.mp member ▸ isWord
  · simp only [not_forall, exists_prop, Bool.not_eq_false] at letters
    rcases letters with ⟨c, inside, blank⟩
    rcases List.append_of_mem inside with ⟨front, back, divided⟩
    rw [divided, wordList_append_cons blank] at member
    have shorter : front.length < cs.length ∧ back.length < cs.length := by
      rw [divided, List.length_append, List.length_cons]
      omega
    rcases List.mem_append.mp member with inFront | inBack
    · exact isWord_of_mem_wordList inFront
    · exact isWord_of_mem_wordList inBack
termination_by cs.length
decreasing_by
  · exact shorter.1
  · exact shorter.2

/-- Words with a space between neighbours are the words of that text. -/
theorem wordList_intercalate {list : List (List Char)} (isWord : ∀ word ∈ list, IsWord word) :
    wordList ([' '].intercalate list) = list := by
  induction list with
  | nil => exact wordList_nil
  | cons word list inductionHypothesis =>
      rw [List.forall_mem_cons] at isWord
      cases list with
      | nil => rw [List.intercalate_singleton, isWord.1.wordList_eq]
      | cons next list =>
          rw [List.intercalate_cons_cons, List.append_assoc, List.singleton_append,
            wordList_append_cons (by decide), isWord.1.wordList_eq, inductionHypothesis isWord.2]
          rfl

/-- Normal text has the words of the text that it was made of. -/
theorem words_normalize (s : String) : words (normalize s) = words s := by
  rw [words, words, normalize, String.toList_ofList, wordList_intercalate]
  exact fun word => isWord_of_mem_wordList

theorem wordList_dropWhile (cs : List Char) : wordList (cs.dropWhile isBlank) = wordList cs := by
  induction cs with
  | nil => rfl
  | cons c cs inductionHypothesis =>
      cases blank : isBlank c with
      | true =>
          rw [List.dropWhile_cons_of_pos blank, inductionHypothesis, wordList_cons_blank blank]
      | false => rw [List.dropWhile_cons_of_neg (by rw [blank]; exact Bool.false_ne_true)]

theorem wordList_trimRight (cs : List Char) : wordList (trimRight isBlank cs) = wordList cs := by
  induction cs using List.reverseRecOn with
  | nil => rfl
  | append_singleton front c inductionHypothesis =>
      rw [trimRight, List.reverse_append, List.reverse_singleton, List.singleton_append]
      cases blank : isBlank c with
      | true =>
          rw [List.dropWhile_cons_of_pos blank, ← trimRight, inductionHypothesis,
            wordList_append_cons blank, wordList_nil, List.append_nil]
      | false =>
          rw [List.dropWhile_cons_of_neg (by rw [blank]; exact Bool.false_ne_true),
            List.reverse_cons, List.reverse_reverse]

/-- Trimming drops no word. -/
theorem words_trim (s : String) : words (trim s) = words s := by
  have trimmed : (trim s).toList = trimRight isBlank (s.toList.dropWhile isBlank) :=
    String.toList_ofList
  rw [words, words, trimmed, wordList_trimRight, wordList_dropWhile]

theorem words_append_space (first second : String) :
    words (first ++ " " ++ second) = words first ++ words second := by
  have divided : (first ++ " " ++ second).toList = first.toList ++ ' ' :: second.toList := by
    rw [String.toList_append, String.toList_append, List.append_assoc]
    rfl
  rw [words, words, words, divided, wordList_append_cons (by decide), List.map_append]

/-! ## Texts put together -/

/-- Whether two texts do not meet letter to letter: there is white space where they meet, or one of
them is empty. -/
def IsParted (first second : List Char) : Prop :=
  first.getLast?.all isBlank = true ∨ second.head?.all isBlank = true

instance (first second : List Char) : Decidable (IsParted first second) :=
  inferInstanceAs (Decidable (_ ∨ _))

theorem wordList_append_of_isParted {first second : List Char} (parted : IsParted first second) :
    wordList (first ++ second) = wordList first ++ wordList second := by
  rcases parted with atEnd | atStart
  · rcases List.eq_nil_or_concat first with rfl | ⟨front, c, rfl⟩
    · rw [wordList_nil]
      rfl
    · have blank : isBlank c = true := by simpa using atEnd
      rw [List.concat_eq_append, List.append_assoc, List.singleton_append,
        wordList_append_cons blank, wordList_append_cons blank, wordList_nil, List.append_nil]
  · cases second with
    | nil => rw [wordList_nil, List.append_nil, List.append_nil]
    | cons c back => rw [wordList_append_cons atStart, wordList_cons_blank atStart]

/-- A text that starts with a letter starts with a word. -/
theorem exists_first_word {cs : List Char} (letter : cs.head?.all isBlank = false) :
    ∃ word rest, cs = word ++ rest ∧ IsWord word ∧ rest.head?.all isBlank = true := by
  refine ⟨cs.takeWhile (!isBlank ·), cs.dropWhile (!isBlank ·),
    List.takeWhile_append_dropWhile.symm, ⟨?_, ?_⟩, ?_⟩
  · cases cs with
    | nil => cases letter
    | cons c cs => simp_all
  · intro c member
    simpa using List.mem_takeWhile_imp member
  · have stop := List.head?_dropWhile_not (!isBlank ·) cs
    revert stop
    cases (cs.dropWhile (!isBlank ·)).head? <;> simp

/-- A text that ends with a letter ends with a word. -/
theorem exists_last_word {cs : List Char} (letter : cs.getLast?.all isBlank = false) :
    ∃ front word, cs = front ++ word ∧ IsWord word ∧ front.getLast?.all isBlank = true := by
  rw [← List.head?_reverse] at letter
  rcases exists_first_word letter with ⟨word, rest, divided, isWord, blank⟩
  refine ⟨rest.reverse, word.reverse, ?_, ⟨?_, ?_⟩, ?_⟩
  · rw [← List.reverse_append, ← divided, List.reverse_reverse]
  · exact List.reverse_ne_nil_iff.mpr isWord.nonempty
  · exact fun c member => isWord.letters c (List.mem_reverse.mp member)
  · rw [List.getLast?_reverse]
    exact blank

/-- Where two texts meet letter to letter, two words become one. -/
theorem exists_wordList_append_of_not_isParted {first second : List Char}
    (glued : ¬ IsParted first second) :
    ∃ front word next rest, wordList first = front ++ [word] ∧ wordList second = next :: rest ∧
      wordList (first ++ second) = front ++ (word ++ next) :: rest := by
  rw [IsParted, not_or, Bool.not_eq_true, Bool.not_eq_true] at glued
  rcases exists_last_word glued.1 with ⟨front, word, rfl, isWord, blankFront⟩
  rcases exists_first_word glued.2 with ⟨next, rest, rfl, isNext, blankRest⟩
  have around : ∀ middle, IsWord middle →
      wordList (front ++ middle) = wordList front ++ [middle] ∧
        wordList (middle ++ rest) = middle :: wordList rest := by
    intro middle isMiddle
    rw [wordList_append_of_isParted (Or.inl blankFront),
      wordList_append_of_isParted (Or.inr blankRest), isMiddle.wordList_eq]
    exact ⟨rfl, rfl⟩
  refine ⟨wordList front, word, next, wordList rest, (around word isWord).1, (around next isNext).2,
    ?_⟩
  rw [List.append_assoc, ← List.append_assoc word, wordList_append_of_isParted (Or.inl blankFront),
    (around _ (isWord.append isNext)).2]

/-- Putting texts together makes no words. -/
theorem length_wordList_flatten_le (texts : List (List Char)) :
    (wordList texts.flatten).length ≤ (texts.flatMap wordList).length := by
  induction texts with
  | nil => exact Nat.zero_le _
  | cons first texts inductionHypothesis =>
      rw [List.flatten_cons, List.flatMap_cons, List.length_append]
      by_cases parted : IsParted first texts.flatten
      · rw [wordList_append_of_isParted parted, List.length_append]
        omega
      · rcases exists_wordList_append_of_not_isParted parted with
          ⟨front, word, next, rest, isFirst, isRest, whole⟩
        rw [whole, isFirst]
        rw [isRest] at inductionHypothesis
        simp only [List.length_append, List.length_cons, List.length_nil] at inductionHypothesis ⊢
        omega

/-- Whether no two of some texts meet letter to letter when they are put together. -/
def AreParted (texts : List (List Char)) : Prop :=
  (texts.filter (!·.isEmpty)).IsChain IsParted

instance (texts : List (List Char)) : Decidable (AreParted texts) :=
  inferInstanceAs (Decidable (List.IsChain _ _))

/-- Behind a text, some others begin like the first of them that is not empty. -/
theorem isParted_flatten_iff {first : List Char} {texts : List (List Char)} :
    IsParted first texts.flatten ↔
      ∀ second ∈ (texts.filter (!·.isEmpty)).head?, IsParted first second := by
  induction texts with
  | nil => simp [IsParted]
  | cons second texts inductionHypothesis =>
      cases second with
      | nil => simpa using inductionHypothesis
      | cons c second => simp [IsParted]

theorem areParted_cons_iff {first : List Char} {texts : List (List Char)} :
    AreParted (first :: texts) ↔ IsParted first texts.flatten ∧ AreParted texts := by
  rw [isParted_flatten_iff]
  cases first with
  | nil => simp [AreParted, IsParted]
  | cons c first => simp [AreParted, List.isChain_cons]

/-- Texts keep all their words exactly if no two of them meet letter to letter. -/
theorem wordList_flatten_eq_iff {texts : List (List Char)} :
    wordList texts.flatten = texts.flatMap wordList ↔ AreParted texts := by
  induction texts with
  | nil => simp [AreParted]
  | cons first texts inductionHypothesis =>
      rw [areParted_cons_iff, List.flatten_cons, List.flatMap_cons]
      by_cases parted : IsParted first texts.flatten
      · rw [wordList_append_of_isParted parted, List.append_cancel_left_eq, inductionHypothesis,
          and_iff_right parted]
      · refine iff_of_false ?_ fun areParted => parted areParted.1
        rcases exists_wordList_append_of_not_isParted parted with
          ⟨front, word, next, rest, isFirst, isRest, whole⟩
        intro same
        have few := length_wordList_flatten_le texts
        have lengths := congrArg List.length same
        rw [whole, isFirst] at lengths
        rw [isRest] at few
        simp only [List.length_append, List.length_cons, List.length_nil] at few lengths
        omega

end Text
end Folio
