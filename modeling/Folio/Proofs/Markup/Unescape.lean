import Folio.Markup.Escape

namespace Folio
namespace Markup

/-!
# Escaped text is decoded to what it was

An escape is a reference with its semicolon, so a page reader decodes it whatever follows, in texts
and in values alike, and so does the stricter reader of stripped text.  What is copied is no
ampersand, and the readers copy it too.  The characters that end a text or a value do not occur in
its escaped form, nor does one that begins a tag.
-/

theorem decodePageFrom_copy (inAttribute : Bool) {c : Char} (plain : c ≠ '&') (cs : List Char) :
    decodePageFrom inAttribute 0 (c :: cs) = c :: decodePageFrom inAttribute 0 cs := by
  rw [decodePageFrom, if_neg plain]

/-- A character of a text is copied, or it is one of three with a reference. -/
theorem escapeTextChar_cases (c : Char) :
    (c ≠ '&' ∧ c ≠ '<' ∧ c ≠ '>' ∧ escapeTextChar c = [c]) ∨ c = '&' ∨ c = '<' ∨ c = '>' := by
  by_cases ampersand : c = '&'
  · exact Or.inr (Or.inl ampersand)
  · by_cases less : c = '<'
    · exact Or.inr (Or.inr (Or.inl less))
    · by_cases greater : c = '>'
      · exact Or.inr (Or.inr (Or.inr greater))
      · refine Or.inl ⟨ampersand, less, greater, ?_⟩
        rw [escapeTextChar, if_neg ampersand, if_neg less, if_neg greater]

theorem decodePageFrom_escapeTextChar (inAttribute : Bool) (c : Char) (rest : List Char) :
    decodePageFrom inAttribute 0 (escapeTextChar c ++ rest) =
      c :: decodePageFrom inAttribute 0 rest := by
  rcases escapeTextChar_cases c with ⟨plain, -, -, copied⟩ | rfl | rfl | rfl
  · rw [copied]
    exact decodePageFrom_copy inAttribute plain rest
  · rfl
  · rfl
  · rfl

theorem decodePageFrom_escapeValueChar (inAttribute : Bool) (c : Char) (rest : List Char) :
    decodePageFrom inAttribute 0 (escapeValueChar c ++ rest) =
      c :: decodePageFrom inAttribute 0 rest := by
  unfold escapeValueChar
  split
  · next quote =>
      subst quote
      rfl
  · exact decodePageFrom_escapeTextChar inAttribute c rest

theorem decodeText_escapeTextList (cs : List Char) : decodeText (escapeTextList cs) = cs := by
  induction cs with
  | nil => rfl
  | cons c cs inductionHypothesis =>
      rw [escapeTextList, List.flatMap_cons, decodeText, decodePageFrom_escapeTextChar]
      exact congrArg (c :: ·) inductionHypothesis

theorem decodeValue_escapeValueList (cs : List Char) : decodeValue (escapeValueList cs) = cs := by
  induction cs with
  | nil => rfl
  | cons c cs inductionHypothesis =>
      rw [escapeValueList, List.flatMap_cons, decodeValue, decodePageFrom_escapeValueChar]
      exact congrArg (c :: ·) inductionHypothesis

theorem decodeStrictFrom_copy {c : Char} (plain : c ≠ '&') (cs : List Char) :
    decodeStrictFrom 0 (c :: cs) = c :: decodeStrictFrom 0 cs := by
  rw [decodeStrictFrom, if_neg plain]

theorem decodeStrictFrom_escapeTextChar (c : Char) (rest : List Char) :
    decodeStrictFrom 0 (escapeTextChar c ++ rest) = c :: decodeStrictFrom 0 rest := by
  rcases escapeTextChar_cases c with ⟨plain, -, -, copied⟩ | rfl | rfl | rfl
  · rw [copied]
    exact decodeStrictFrom_copy plain rest
  · rfl
  · rfl
  · rfl

/-- What a reference stands for is not read again, so a text that spells references keeps them. -/
theorem decodeStrict_escapeTextList (cs : List Char) : decodeStrict (escapeTextList cs) = cs := by
  induction cs with
  | nil => rfl
  | cons c cs inductionHypothesis =>
      rw [escapeTextList, List.flatMap_cons, decodeStrict, decodeStrictFrom_escapeTextChar]
      exact congrArg (c :: ·) inductionHypothesis

/-! ## What escaped text does not hold -/

/-- Character references hold no delimiters. -/
theorem ne_of_mem_of_all {cs : List Char} {x : Char}
    (plain : (cs.all fun y => y != '<' && y != '>' && y != '"') = true) (member : x ∈ cs) :
    x ≠ '<' ∧ x ≠ '>' ∧ x ≠ '"' := by
  have here := List.all_eq_true.mp plain x member
  simpa [and_assoc] using here

theorem ne_of_mem_escapeTextChar {c x : Char} (member : x ∈ escapeTextChar c) :
    x ≠ '<' ∧ x ≠ '>' ∧ (x = '"' → c = '"') := by
  have reference
      (plain : ((escapeTextChar c).all fun y => y != '<' && y != '>' && y != '"') = true) :
      x ≠ '<' ∧ x ≠ '>' ∧ (x = '"' → c = '"') := by
    rcases ne_of_mem_of_all plain member with ⟨less, greater, quote⟩
    exact ⟨less, greater, fun same => absurd same quote⟩
  rcases escapeTextChar_cases c with ⟨-, less, greater, copied⟩ | rfl | rfl | rfl
  · rw [copied] at member
    rw [List.mem_singleton.mp member]
    exact ⟨less, greater, id⟩
  · exact reference (by decide)
  · exact reference (by decide)
  · exact reference (by decide)

theorem ne_of_mem_escapeValueChar {c x : Char} (member : x ∈ escapeValueChar c) :
    x ≠ '<' ∧ x ≠ '>' ∧ x ≠ '"' := by
  unfold escapeValueChar at member
  split at member
  · exact ne_of_mem_of_all (by decide) member
  · next other =>
      have delimiters := ne_of_mem_escapeTextChar member
      exact ⟨delimiters.1, delimiters.2.1, fun quote => other (delimiters.2.2 quote)⟩

/-- Control characters are escaped as themselves, and are in no reference. -/
theorem mem_of_mem_escapeTextList {cs : List Char} {x : Char} (control : x.toNat < 32)
    (member : x ∈ escapeTextList cs) : x ∈ cs := by
  rcases List.mem_flatMap.mp member with ⟨c, among, member⟩
  have notReference (plain : ((escapeTextChar c).all fun y => 32 ≤ y.toNat) = true) : x ∈ cs := by
    have here := of_decide_eq_true (List.all_eq_true.mp plain x member)
    omega
  rcases escapeTextChar_cases c with ⟨-, -, -, copied⟩ | rfl | rfl | rfl
  · rw [copied] at member
    rwa [List.mem_singleton.mp member]
  · exact notReference (by decide)
  · exact notReference (by decide)
  · exact notReference (by decide)

theorem less_not_mem_escapeTextList (cs : List Char) : '<' ∉ escapeTextList cs := by
  intro member
  rcases List.mem_flatMap.mp member with ⟨c, -, member⟩
  exact (ne_of_mem_escapeTextChar member).1 rfl

theorem less_not_mem_escapeValueList (cs : List Char) : '<' ∉ escapeValueList cs := by
  intro member
  rcases List.mem_flatMap.mp member with ⟨c, -, member⟩
  exact (ne_of_mem_escapeValueChar member).1 rfl

theorem greater_not_mem_escapeValueList (cs : List Char) : '>' ∉ escapeValueList cs := by
  intro member
  rcases List.mem_flatMap.mp member with ⟨c, -, member⟩
  exact (ne_of_mem_escapeValueChar member).2.1 rfl

theorem quote_not_mem_escapeValueList (cs : List Char) : '"' ∉ escapeValueList cs := by
  intro member
  rcases List.mem_flatMap.mp member with ⟨c, -, member⟩
  exact (ne_of_mem_escapeValueChar member).2.2 rfl

/-- Where no tag begins, nothing is dropped. -/
theorem dropTags_append_of_no_less {cs : List Char} (plain : '<' ∉ cs) (rest : List Char) :
    dropTags false (cs ++ rest) = cs ++ dropTags false rest := by
  induction cs with
  | nil => rfl
  | cons c cs inductionHypothesis =>
      rw [List.mem_cons, not_or] at plain
      have noTag : ¬ (c = '<' ∧ '>' ∈ cs ++ rest) := fun tag => plain.1 tag.1.symm
      rw [List.cons_append, dropTags, if_neg noTag, inductionHypothesis plain.2, List.cons_append]

theorem dropTags_of_no_less {cs : List Char} (plain : '<' ∉ cs) : dropTags false cs = cs := by
  have whole := dropTags_append_of_no_less plain []
  rwa [List.append_nil, dropTags, List.append_nil] at whole

/-- Taking the text out of escaped text gives it back. -/
theorem stripTags_escapeText (s : String) : stripTags (escapeText s) = s := by
  rw [stripTags, escapeText, String.toList_ofList,
    dropTags_of_no_less (less_not_mem_escapeTextList _), decodeStrict_escapeTextList,
    String.ofList_toList]

theorem escapeTextList_ne_nil {s : String} (nonempty : s ≠ "") : escapeTextList s.toList ≠ [] := by
  intro empty
  have decoded := decodeText_escapeTextList s.toList
  rw [empty] at decoded
  exact nonempty (String.toList_eq_nil_iff.mp decoded.symm)

/-- Escaping leaves no text without characters and puts no line feed in front of one. -/
theorem head?_escapeTextList {cs : List Char} {c : Char} (plain : c ≠ '&') :
    (escapeTextList cs).head? = some c → cs.head? = some c := by
  intro begins
  have decoded := decodeText_escapeTextList cs
  cases escaped : escapeTextList cs with
  | nil =>
      rw [escaped] at begins
      cases begins
  | cons x rest =>
      rw [escaped, List.head?_cons, Option.some.injEq] at begins
      rw [escaped, begins, decodeText, decodePageFrom_copy false plain] at decoded
      rw [← decoded]
      rfl

end Markup
end Folio
