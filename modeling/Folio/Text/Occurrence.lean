namespace Folio
namespace Text

/-!
# Occurrences

Looking for a fixed text at the front of, or anywhere in, another one.
-/

/-- What follows `pattern` at the front of a text. -/
def dropFront? (pattern : List Char) : List Char → Option (List Char) :=
  match pattern with
  | [] => some
  | p :: ps => fun
    | [] => none
    | c :: cs => if p = c then dropFront? ps cs else none

/-- Whether `pattern` stands somewhere in a text. -/
def occursIn (pattern : List Char) : List Char → Bool
  | [] => pattern.isEmpty
  | c :: cs => (dropFront? pattern (c :: cs)).isSome || occursIn pattern cs

theorem dropFront?_eq_some_iff {pattern cs rest : List Char} :
    dropFront? pattern cs = some rest ↔ cs = pattern ++ rest := by
  induction pattern generalizing cs with
  | nil => simp [dropFront?]
  | cons p ps ih =>
    cases cs with
    | nil => simp [dropFront?]
    | cons c cs =>
      by_cases h : p = c
      · simp [dropFront?, h, ih]
      · have h' : ¬ c = p := fun e => h e.symm
        simp [dropFront?, h, h']

theorem occursIn_iff {pattern cs : List Char} :
    occursIn pattern cs = true ↔ ∃ before after, cs = before ++ pattern ++ after := by
  induction cs with
  | nil =>
    simp only [occursIn, List.isEmpty_iff]
    constructor
    · rintro rfl; exact ⟨[], [], rfl⟩
    · rintro ⟨before, after, h⟩; simp_all
  | cons c cs ih =>
    simp only [occursIn, Bool.or_eq_true, ih]
    constructor
    · rintro (h | ⟨before, after, h⟩)
      · obtain ⟨rest, hr⟩ := Option.isSome_iff_exists.1 h
        exact ⟨[], rest, by simpa using dropFront?_eq_some_iff.1 hr⟩
      · exact ⟨c :: before, after, by simp [h]⟩
    · rintro ⟨before, after, h⟩
      cases before with
      | nil =>
        have h' : c :: cs = pattern ++ after := by simpa using h
        rw [dropFront?_eq_some_iff.2 h']; exact Or.inl rfl
      | cons b before => exact Or.inr ⟨before, after, by simpa using (List.cons.inj h).2⟩

end Text
end Folio
