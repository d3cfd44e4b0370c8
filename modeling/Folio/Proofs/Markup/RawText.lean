import Folio.Markup.Token
import Mathlib.Data.List.Basic

namespace Folio
namespace Markup

/-!
# Raw text

In a few elements everything up to the end tag of the element is text.  What the reader takes there
is taken again if it is written as it is with an end tag behind it, whatever follows.  The reader
looks ahead only for names, and no name holds the less-than sign that the end tag begins with, so
that what it has decided on the way does not depend on what comes behind the text.

A script is read like that if the reader does not stand in a script inside a comment at the end of
it, where an end tag of the script would not be one.
-/

/-- Whether a name and its end stand here. -/
def nameFollows : List Char → List Char → Bool
  | [], cs => cs.head?.any endsTagName
  | _ :: _, [] => false
  | n :: name, c :: cs => c.toLower == n && nameFollows name cs

theorem nameFollows_eq (name cs : List Char) :
    nameFollows name cs = ((cs.take name.length).map Char.toLower == name &&
      (cs.drop name.length).head?.any endsTagName) := by
  induction name generalizing cs with
  | nil => simp [nameFollows]
  | cons n name inductionHypothesis =>
      cases cs with
      | nil => rfl
      | cons c cs =>
          rw [nameFollows, inductionHypothesis, ← Bool.and_assoc]
          rfl

theorem scriptNameFollows_eq (cs : List Char) :
    scriptNameFollows cs = nameFollows scriptName cs := (nameFollows_eq scriptName cs).symm

theorem endTagFollows_cons (name : List Char) (c : Char) (cs : List Char) :
    endTagFollows name (c :: cs) = (c == '/' && nameFollows name cs) := by
  rw [nameFollows_eq]
  by_cases slash : c = '/'
  · subst slash
    rfl
  · rw [endTagFollows, beq_false_of_ne slash, Bool.false_and]
    rintro _ ⟨⟩
    exact slash rfl

section

variable {name : List Char} (letters : ∀ c ∈ name, c.isLower = true)

include letters

/-- A less-than sign ends the search for a name like the end of the page. -/
theorem nameFollows_append_less (cs rest : List Char) :
    nameFollows name (cs ++ '<' :: rest) = nameFollows name cs := by
  induction name generalizing cs with
  | nil => cases cs <;> rfl
  | cons n name inductionHypothesis =>
      cases cs with
      | nil =>
          have different : ('<'.toLower == n) = false := by
            rw [beq_eq_false_iff_ne]
            rintro rfl
            exact absurd (letters _ List.mem_cons_self) (by decide)
          simp only [List.nil_append, nameFollows, different, Bool.false_and]
      | cons c cs =>
          rw [List.cons_append, nameFollows, nameFollows,
            inductionHypothesis fun x member => letters x (List.mem_cons_of_mem n member)]

theorem endTagFollows_append_less (cs rest : List Char) :
    endTagFollows name (cs ++ '<' :: rest) = endTagFollows name cs := by
  cases cs with
  | nil => rfl
  | cons c cs =>
      rw [List.cons_append, endTagFollows_cons, endTagFollows_cons, nameFollows_append_less letters]

/-- Null characters stand in no name. -/
theorem nameFollows_map_nullToReplacement (cs : List Char) :
    nameFollows name (cs.map nullToReplacement) = nameFollows name cs := by
  induction name generalizing cs with
  | nil =>
      cases cs with
      | nil => rfl
      | cons c cs =>
          by_cases null : c = '\x00'
          · subst null
            rfl
          · rw [List.map_cons, nullToReplacement, if_neg null]
            rfl
  | cons n name inductionHypothesis =>
      cases cs with
      | nil => rfl
      | cons c cs =>
          rw [List.map_cons, nameFollows, nameFollows,
            inductionHypothesis fun x member => letters x (List.mem_cons_of_mem n member)]
          by_cases null : c = '\x00'
          · have letter := letters n List.mem_cons_self
            have noNull : ('\x00'.toLower == n) = false := by
              rw [beq_eq_false_iff_ne]
              rintro rfl
              exact absurd letter (by decide)
            have noReplacement : ((nullToReplacement '\x00').toLower == n) = false := by
              rw [beq_eq_false_iff_ne]
              rintro rfl
              exact absurd letter (by decide)
            rw [null, noNull, noReplacement]
          · rw [nullToReplacement, if_neg null]

theorem endTagFollows_map_nullToReplacement (cs : List Char) :
    endTagFollows name (cs.map nullToReplacement) = endTagFollows name cs := by
  cases cs with
  | nil => rfl
  | cons c cs =>
      rw [List.map_cons, endTagFollows_cons, endTagFollows_cons,
        nameFollows_map_nullToReplacement letters]
      by_cases null : c = '\x00'
      · subst null
        rfl
      · rw [nullToReplacement, if_neg null]

end

theorem nullToReplacement_eq_iff {c x : Char} (noNull : x ≠ '\x00')
    (noReplacement : x ≠ replacementChar) : nullToReplacement c = x ↔ c = x := by
  rw [nullToReplacement]
  split
  · next null =>
      subst null
      exact iff_of_false noReplacement.symm noNull.symm
  · rfl

/-- What stands behind a text that was cut off: nothing, or the end tag. -/
theorem splitAtEndTag_spec (name cs : List Char) :
    (splitAtEndTag name cs).1 ++ (splitAtEndTag name cs).2 = cs ∧
      ((splitAtEndTag name cs).2 = [] ∨ ∃ rest, (splitAtEndTag name cs).2 = '<' :: rest ∧
        endTagFollows name rest = true) := by
  induction cs with
  | nil => exact ⟨rfl, Or.inl rfl⟩
  | cons c cs inductionHypothesis =>
      rw [splitAtEndTag]
      split
      · next stops =>
          rcases stops with ⟨rfl, follows⟩
          exact ⟨rfl, Or.inr ⟨cs, rfl, follows⟩⟩
      · exact ⟨congrArg (c :: ·) inductionHypothesis.1, inductionHypothesis.2⟩

section

variable {name : List Char} (letters : ∀ c ∈ name, c.isLower = true)

include letters

/-- A text is cut off in front of an end tag exactly if it holds none itself. -/
theorem splitAtEndTag_append_iff {rest : List Char} (follows : endTagFollows name rest = true)
    (cs : List Char) :
    splitAtEndTag name (cs ++ '<' :: rest) = (cs, '<' :: rest) ↔
      splitAtEndTag name cs = (cs, []) := by
  induction cs with
  | nil => simp [splitAtEndTag, follows]
  | cons c cs inductionHypothesis =>
      rw [List.cons_append, splitAtEndTag, splitAtEndTag, endTagFollows_append_less letters]
      split
      · simp
      · rw [Prod.ext_iff, Prod.ext_iff] at inductionHypothesis ⊢
        simpa using inductionHypothesis

theorem splitAtEndTag_map_nullToReplacement (cs : List Char) :
    splitAtEndTag name (cs.map nullToReplacement) =
      ((splitAtEndTag name cs).1.map nullToReplacement,
        (splitAtEndTag name cs).2.map nullToReplacement) := by
  induction cs with
  | nil => rfl
  | cons c cs inductionHypothesis =>
      have less := nullToReplacement_eq_iff (c := c) (x := '<') (by decide) (by decide)
      simp only [List.map_cons, splitAtEndTag, less,
        endTagFollows_map_nullToReplacement letters]
      split
      · rfl
      · rw [inductionHypothesis]
        rfl

/-- What is cut off holds no end tag. -/
theorem splitAtEndTag_fst (cs : List Char) :
    splitAtEndTag name (splitAtEndTag name cs).1 = ((splitAtEndTag name cs).1, []) := by
  rcases splitAtEndTag_spec name cs with ⟨whole, atEnd | ⟨rest, behind, follows⟩⟩
  · rw [atEnd, List.append_nil] at whole
    rw [whole, Prod.ext_iff]
    exact ⟨whole, atEnd⟩
  · rw [← splitAtEndTag_append_iff letters follows, ← behind, whole]

/-- A text that was cut off is cut off again in front of every end tag. -/
theorem splitAtEndTag_cutOff {rest : List Char} (follows : endTagFollows name rest = true)
    (cs : List Char) :
    splitAtEndTag name ((splitAtEndTag name cs).1.map nullToReplacement ++ '<' :: rest) =
      ((splitAtEndTag name cs).1.map nullToReplacement, '<' :: rest) := by
  rw [splitAtEndTag_append_iff letters follows, splitAtEndTag_map_nullToReplacement letters,
    splitAtEndTag_fst letters]
  rfl

end

/-! ## Scripts -/

/-- Whether the reader stands in a script inside a comment. -/
def ScriptState.isNested : ScriptState → Bool
  | .nested _ => true
  | _ => false

/-- Where the reader of a script stands behind a character. -/
def ScriptState.next (c : Char) (cs : List Char) : ScriptState → ScriptState
  | .plain => if c = '<' ∧ cs.take 3 = "!--".toList then .comment 0 else .plain
  | .comment hyphens =>
    if c = '-' then .comment (hyphens + 1)
    else if c = '>' ∧ 2 ≤ hyphens then .plain
    else if c = '<' ∧ scriptNameFollows cs then .nested 0
    else .comment 0
  | .nested hyphens =>
    if c = '-' then .nested (hyphens + 1)
    else if c = '>' ∧ 2 ≤ hyphens then .plain
    else if c = '<' ∧ cs.head? = some '/' ∧ scriptNameFollows (cs.drop 1) then .comment 0
    else .nested 0

/-- A script ends at an end tag outside the scripts inside its comments. -/
theorem splitScript_cons (state : ScriptState) (c : Char) (cs : List Char) :
    splitScript state (c :: cs) =
      if state.isNested = false ∧ c = '<' ∧ endTagFollows scriptName cs then ([], c :: cs)
      else
        (c :: (splitScript (state.next c cs) cs).1, (splitScript (state.next c cs) cs).2) := by
  cases state with
  | plain => 
      simp only [splitScript, ScriptState.next, ScriptState.isNested]
      split <;> split <;> simp_all
  | comment hyphens =>
      simp only [splitScript, ScriptState.next, ScriptState.isNested]
      by_cases hyphen : c = '-'
      · simp [hyphen]
      · by_cases closed : c = '>' ∧ 2 ≤ hyphens
        · simp [closed]
        · simp only [if_neg hyphen, if_neg closed, true_and]
          split
          · rfl
          · split <;> rfl
  | nested hyphens =>
      simp only [splitScript, ScriptState.next, ScriptState.isNested]
      split
      · simp
      · split
        · simp
        · split <;> simp

/-- Where the reader of a script stands behind a text that it takes whole. -/
def scriptStateAfter : ScriptState → List Char → ScriptState
  | state, [] => state
  | state, c :: cs => scriptStateAfter (state.next c cs) cs

theorem scriptName_letters : ∀ c ∈ scriptName, c.isLower = true :=
  List.all_eq_true.mp (by decide)

/-- What comes behind a less-than sign makes no difference to the reader in front of it. -/
theorem ScriptState.next_append_less (state : ScriptState) (c : Char) (cs rest : List Char) :
    state.next c (cs ++ '<' :: rest) = state.next c cs := by
  cases state with
  | plain =>
      have same : (cs ++ '<' :: rest).take 3 = "!--".toList ↔ cs.take 3 = "!--".toList := by
        rcases cs with _ | ⟨a, _ | ⟨b, _ | ⟨c, cs⟩⟩⟩ <;> simp
      simp only [next, same]
  | comment hyphens =>
      simp only [next, scriptNameFollows_eq, nameFollows_append_less scriptName_letters]
  | nested hyphens =>
      cases cs with
      | nil => simp [next]
      | cons a cs =>
          simp only [next, scriptNameFollows_eq, List.cons_append, List.head?_cons,
            List.drop_succ_cons, List.drop_zero, nameFollows_append_less scriptName_letters]

theorem ScriptState.next_map_nullToReplacement (state : ScriptState) (c : Char) (cs : List Char) :
    state.next (nullToReplacement c) (cs.map nullToReplacement) = state.next c cs := by
  have same (c x : Char) (other : x ≠ '\x00' ∧ x ≠ replacementChar) :=
    nullToReplacement_eq_iff (c := c) other.1 other.2
  have less := same c '<' (by decide)
  have greater := same c '>' (by decide)
  have hyphen := same c '-' (by decide)
  cases state with
  | plain =>
      have opening : (cs.map nullToReplacement).take 3 = "!--".toList ↔
          cs.take 3 = "!--".toList := by
        rcases cs with _ | ⟨a, _ | ⟨b, _ | ⟨c, cs⟩⟩⟩ <;>
          simp [same _ '!' (by decide), same _ '-' (by decide)]
      simp only [next, less, opening]
  | comment hyphens =>
      simp only [next, less, greater, hyphen, scriptNameFollows_eq,
        nameFollows_map_nullToReplacement scriptName_letters]
  | nested hyphens =>
      have slash : (cs.map nullToReplacement).head? = some '/' ↔ cs.head? = some '/' := by
        cases cs with
        | nil => rfl
        | cons a cs => simp [same a '/' (by decide)]
      simp only [next, less, greater, hyphen, slash, scriptNameFollows_eq, ← List.map_drop,
        nameFollows_map_nullToReplacement scriptName_letters]

theorem splitScript_map_nullToReplacement (state : ScriptState) (cs : List Char) :
    splitScript state (cs.map nullToReplacement) =
      ((splitScript state cs).1.map nullToReplacement,
        (splitScript state cs).2.map nullToReplacement) := by
  induction cs generalizing state with
  | nil => rfl
  | cons c cs inductionHypothesis =>
      have less := nullToReplacement_eq_iff (c := c) (x := '<') (by decide) (by decide)
      rw [List.map_cons, splitScript_cons, splitScript_cons]
      simp only [less, endTagFollows_map_nullToReplacement scriptName_letters,
        ScriptState.next_map_nullToReplacement]
      split
      · rfl
      · rw [inductionHypothesis]
        rfl

theorem splitScript_spec (state : ScriptState) (cs : List Char) :
    (splitScript state cs).1 ++ (splitScript state cs).2 = cs ∧
      ((splitScript state cs).2 = [] ∨ ∃ rest, (splitScript state cs).2 = '<' :: rest ∧
        endTagFollows scriptName rest = true) := by
  induction cs generalizing state with
  | nil => exact ⟨rfl, Or.inl rfl⟩
  | cons c cs inductionHypothesis =>
      rw [splitScript_cons]
      split
      · next stops =>
          rcases stops with ⟨-, rfl, follows⟩
          exact ⟨rfl, Or.inr ⟨cs, rfl, follows⟩⟩
      · have later := inductionHypothesis (state.next c cs)
        exact ⟨congrArg (c :: ·) later.1, later.2⟩

/-- A script is cut off in front of an end tag exactly if it holds none itself and does not end in a
script inside a comment. -/
theorem splitScript_append_iff {rest : List Char} (follows : endTagFollows scriptName rest = true)
    (state : ScriptState) (cs : List Char) :
    splitScript state (cs ++ '<' :: rest) = (cs, '<' :: rest) ↔
      splitScript state cs = (cs, []) ∧ (scriptStateAfter state cs).isNested = false := by
  induction cs generalizing state with
  | nil =>
      rw [List.nil_append, splitScript_cons]
      simp [follows, splitScript, scriptStateAfter]
  | cons c cs inductionHypothesis =>
      rw [List.cons_append, splitScript_cons, splitScript_cons,
        endTagFollows_append_less scriptName_letters, state.next_append_less, scriptStateAfter]
      split
      · simp
      · have later := inductionHypothesis (state.next c cs)
        rw [Prod.ext_iff, Prod.ext_iff] at later ⊢
        simpa using later

theorem splitScript_fst (state : ScriptState) (cs : List Char) :
    splitScript state (splitScript state cs).1 = ((splitScript state cs).1, []) := by
  rcases splitScript_spec state cs with ⟨whole, atEnd | ⟨rest, behind, follows⟩⟩
  · rw [atEnd, List.append_nil] at whole
    rw [whole, Prod.ext_iff]
    exact ⟨whole, atEnd⟩
  · apply ((splitScript_append_iff follows state _).mp _).1
    rw [← behind, whole]

/-- A script that was cut off is cut off again in front of every end tag, if it does not end in a
script inside a comment. -/
theorem splitScript_cutOff_iff {rest : List Char} (follows : endTagFollows scriptName rest = true)
    (cs : List Char) :
    splitScript .plain ((splitScript .plain cs).1.map nullToReplacement ++ '<' :: rest) =
        ((splitScript .plain cs).1.map nullToReplacement, '<' :: rest) ↔
      (scriptStateAfter .plain ((splitScript .plain cs).1.map nullToReplacement)).isNested =
        false := by
  rw [splitScript_append_iff follows, splitScript_map_nullToReplacement, splitScript_fst]
  exact and_iff_right rfl

/-! ## Text elements -/

/-- Elements of the page whose content is read as text. -/
def textTags : List String :=
  ["title", "textarea", "script", "style", "xmp", "iframe", "noembed", "noframes", "noscript"]

/-- How the content of a text element is read. -/
def textModeOf (name : String) : TextMode :=
  if name = "script" then .script
  else if name = "title" ∨ name = "textarea" then .escapable name
  else .verbatim name

/-- Text up to the end tag that ends a text in some mode, and the rest. -/
def cutText : TextMode → List Char → List Char × List Char
  | .escapable name, cs => splitAtEndTag name.toList cs
  | .verbatim name, cs => splitAtEndTag name.toList cs
  | .script, cs => splitScript .plain cs
  | _, cs => ([], cs)

/-- Whether a text has been cut off in front of an end tag, or of the end of the page, as the content
of an element; the line ends of the page are line feeds.  Content with character references is not
looked at. -/
def IsCutOff (name text : String) : Prop :=
  match textModeOf name with
  | .escapable _ => True
  | mode => ∃ cs, '\r' ∉ cs ∧ text.toList = (cutText mode cs).1.map nullToReplacement

theorem cutText_nil (mode : TextMode) : cutText mode [] = ([], []) := by
  cases mode <;> rfl

/-- The empty text is cut off where an end tag follows at once. -/
theorem isCutOff_empty (name : String) : IsCutOff name "" := by
  rw [IsCutOff]
  split
  · trivial
  · exact ⟨[], List.not_mem_nil, by rw [cutText_nil]; rfl⟩

end Markup
end Folio
