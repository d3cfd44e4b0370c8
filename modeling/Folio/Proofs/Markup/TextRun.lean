import Folio.Proofs.Markup.RawText
import Mathlib

namespace Folio
namespace Markup

/-!
# The tokens of a text

The reader cuts a text into runs, which put together are the text again.  Where the reader is told to
look for the end tag of an element, it finds the text up to there first, and then the end tag.
Nothing of this is a start tag; where the reader finds one, it finds nothing else.
-/

/-- Whether a token is a run of text. -/
def Token.isRun : Token → Bool
  | .blank _ => true
  | .chars _ => true
  | .null => true
  | _ => false

/-- The text that a run puts into an element that holds only text. -/
def Token.runText : Token → String
  | .blank s => s
  | .chars s => s
  | _ => ""

theorem isRun_of_mem_textRuns {cs : List Char} {token : Token} (member : token ∈ textRuns cs) :
    token.isRun = true := by
  rcases List.mem_map.mp member with ⟨run, -, rfl⟩
  cases run with
  | nil => rfl
  | cons c run =>
      dsimp only
      split
      · rfl
      · split <;> rfl

/-- Runs without null characters are the whole text. -/
theorem flatMap_textRuns {cs : List Char} (noNull : '\x00' ∉ cs) :
    (textRuns cs).flatMap (fun token => token.runText.toList) = cs := by
  rw [textRuns, List.flatMap_map]
  calc
    _ = (cs.splitBy _).flatMap id := by
      apply List.flatMap_congr
      intro run member
      cases run with
      | nil => rfl
      | cons c run =>
          have other : c ≠ '\x00' := by
            rintro rfl
            apply noNull
            rw [← List.flatten_splitBy (fun a b => isTextSpace a == isTextSpace b && a != '\x00' &&
              b != '\x00') cs]
            exact List.mem_flatten_of_mem member List.mem_cons_self
          dsimp only
          rw [if_neg other]
          split <;> exact String.toList_ofList
    _ = cs := by rw [List.flatMap_id, List.flatten_splitBy]

theorem null_not_mem_map_nullToReplacement (cs : List Char) :
    '\x00' ∉ cs.map nullToReplacement := by
  intro member
  rcases List.mem_map.mp member with ⟨c, -, isNull⟩
  rw [nullToReplacement] at isNull
  split at isNull
  · exact absurd isNull (by decide)
  · next other =>
      exact other isNull

/-- A start tag is read alone. -/
def StartsAlone (tokens : List Token) : Prop :=
  (∃ tag, tokens = [.startTag tag]) ∨ ∀ tag, .startTag tag ∉ tokens

theorem startsAlone_textRuns (cs : List Char) : StartsAlone (textRuns cs) :=
  Or.inr fun _ member => Bool.false_ne_true (isRun_of_mem_textRuns member)

theorem startsAlone_other {token : Token} (other : ∀ tag, token ≠ .startTag tag) :
    StartsAlone [token] :=
  Or.inr fun tag member => other tag (List.mem_singleton.mp member).symm

theorem startsAlone_readDeclaration (characterData : Bool) (cs : List Char) :
    StartsAlone (readDeclaration characterData cs).1 := by
  rw [readDeclaration]
  repeat' split
  all_goals first
    | exact startsAlone_textRuns _
    | exact startsAlone_other fun _ => Token.noConfusion

theorem startsAlone_readMarkup (characterData : Bool) (cs : List Char) :
    StartsAlone (readMarkup characterData cs).1 := by
  rw [readMarkup.eq_def]
  repeat' split
  all_goals first
    | exact startsAlone_readDeclaration _ _
    | exact startsAlone_other fun _ => Token.noConfusion
    | exact Or.inl ⟨_, rfl⟩
    | exact Or.inr fun _ => List.not_mem_nil

/-- A text as it is read in some mode, once it has been cut off. -/
def readText (mode : TextMode) (cs : List Char) : List Char :=
  match mode with
  | .escapable _ => decodeText (cs.map nullToReplacement)
  | _ => cs.map nullToReplacement

/-- Where the reader looks for an end tag it finds the text in front of it, or the tag itself. -/
theorem readTokens_of_cut {mode : TextMode} (cuts : mode ≠ .markup ∧ mode ≠ .rest)
    (characterData : Bool) (cs : List Char) :
    readTokens mode characterData cs =
      if (cutText mode cs).1.isEmpty then readMarkup false ((cutText mode cs).2.drop 1)
      else (textRuns (readText mode (cutText mode cs).1), (cutText mode cs).2) := by
  cases mode with
  | markup => exact absurd rfl cuts.1
  | rest => exact absurd rfl cuts.2
  | _ => rfl

theorem startsAlone_readTokens (mode : TextMode) (characterData : Bool) (cs : List Char) :
    StartsAlone (readTokens mode characterData cs).1 := by
  by_cases cuts : mode ≠ .markup ∧ mode ≠ .rest
  · rw [readTokens_of_cut cuts]
    split
    · exact startsAlone_readMarkup _ _
    · exact startsAlone_textRuns _
  · have others : mode = .markup ∨ mode = .rest := by
      by_cases isMarkup : mode = .markup
      · exact Or.inl isMarkup
      · exact Or.inr (by_contra fun other => cuts ⟨isMarkup, other⟩)
    rcases others with rfl | rfl
    · rw [readTokens.eq_def]
      dsimp only
      split
      · exact startsAlone_readMarkup _ _
      · exact startsAlone_textRuns _
    · exact startsAlone_textRuns _

/-- A letter neither ends a name nor is changed in one. -/
theorem of_isLower {c : Char} (letter : c.isLower = true) :
    endsTagName c = false ∧ nameChar c = c ∧ c.isAlpha = true := by
  have other : ∀ x : Char, x.isLower = false → c ≠ x := by
    rintro x notLetter rfl
    rw [notLetter] at letter
    cases letter
  have small : c.toLower = c := Char.toLower_eq_of_not_isUpper (Char.not_isUpper_of_isLower letter)
  refine ⟨?_, ?_, ?_⟩
  · simp [endsTagName, isMarkupSpace, other]
  · rw [nameChar, nullToReplacement, if_neg (other _ rfl), small]
  · rw [Char.isAlpha, letter, Bool.or_true]

/-- Whether a name is one in small letters. -/
def IsLowerName (name : List Char) : Prop := name ≠ [] ∧ ∀ c ∈ name, c.isLower = true

theorem readMarkup_slash {c : Char} (letter : c.isAlpha = true) (characterData : Bool)
    (cs : List Char) :
    readMarkup characterData ('/' :: c :: cs) =
      match readTag (c :: cs) with
      | some (tag, rest) => ([.endTag tag], rest)
      | none => ([], []) := by
  rw [readMarkup.eq_def]
  exact if_pos letter

/-- An end tag is read, or nothing if the end of the page cuts it off. -/
theorem readMarkup_of_endTagFollows {name cs : List Char} (isName : IsLowerName name)
    (follows : endTagFollows name cs = true) :
    (∃ tag, (readMarkup false cs).1 = [.endTag tag]) ∨ readMarkup false cs = ([], []) := by
  rcases name with _ | ⟨n, name⟩
  · exact absurd rfl isName.1
  · rcases cs with _ | ⟨slash, _ | ⟨c, cs⟩⟩
    · cases follows
    · simp [endTagFollows_cons, nameFollows] at follows
    · rw [endTagFollows_cons, nameFollows, Bool.and_eq_true, Bool.and_eq_true, beq_iff_eq,
        beq_iff_eq] at follows
      rcases follows with ⟨rfl, same, -⟩
      have letter : c.isAlpha = true := by
        rw [← Char.isLower_toLower_eq_isAlpha, same]
        exact isName.2 n List.mem_cons_self
      rw [readMarkup_slash letter]
      split
      · exact Or.inl ⟨_, rfl⟩
      · exact Or.inr rfl

/-- The end tag of an element as it is printed. -/
def endTagText (name : List Char) : List Char := '<' :: '/' :: (name ++ ['>'])

theorem takeWhile_append_greater {name : List Char} (letters : ∀ c ∈ name, c.isLower = true)
    (rest : List Char) :
    (name ++ '>' :: rest).takeWhile (fun c => !endsTagName c) = name ∧
      (name ++ '>' :: rest).dropWhile (fun c => !endsTagName c) = '>' :: rest := by
  have inside : ∀ c ∈ name, (!endsTagName c) = true := fun c member => by
    rw [(of_isLower (letters c member)).1]
    rfl
  rw [List.takeWhile_append_of_pos inside, List.dropWhile_append_of_pos inside]
  exact ⟨List.append_nil name, rfl⟩

theorem readMarkup_endTagText {name : List Char} (isName : IsLowerName name) (rest : List Char) :
    readMarkup false ((endTagText name ++ rest).drop 1) =
      ([.endTag { name := String.ofList name }], rest) := by
  have cut := takeWhile_append_greater isName.2 rest
  have kept : name.map nameChar = name :=
    (List.map_congr_left fun c member => (of_isLower (isName.2 c member)).2.1).trans name.map_id
  have read : readTag (name ++ '>' :: rest) = some ({ name := String.ofList name }, rest) := by
    rw [readTag, cut.1, cut.2, kept]
    rfl
  rcases name with _ | ⟨n, name⟩
  · exact absurd rfl isName.1
  · have letter := (of_isLower (isName.2 n List.mem_cons_self)).2.2
    have shape : (endTagText (n :: name) ++ rest).drop 1 = '/' :: n :: (name ++ '>' :: rest) := by
      simp [endTagText]
    rw [shape, readMarkup_slash letter, ← List.cons_append, read]

theorem nameFollows_append_greater {name : List Char} (letters : ∀ c ∈ name, c.isLower = true)
    (rest : List Char) : nameFollows name (name ++ '>' :: rest) = true := by
  induction name with
  | nil => rfl
  | cons n name inductionHypothesis =>
      have small : n.toLower = n := Char.toLower_eq_of_not_isUpper
        (Char.not_isUpper_of_isLower (letters n List.mem_cons_self))
      rw [List.cons_append, nameFollows, small, beq_self_eq_true, Bool.true_and]
      exact inductionHypothesis fun c member => letters c (List.mem_cons_of_mem n member)

theorem endTagFollows_endTagText {name : List Char} (isName : IsLowerName name) (rest : List Char) :
    endTagFollows name ((endTagText name ++ rest).drop 1) = true := by
  have shape : (endTagText name ++ rest).drop 1 = '/' :: (name ++ '>' :: rest) := by
    simp [endTagText]
  rw [shape, endTagFollows_cons, nameFollows_append_greater isName.2]
  rfl

/-! ## The content of text elements -/

theorem isLowerName_of_mem_textTags {name : String} (element : name ∈ textTags) :
    IsLowerName name.toList := by
  have each : ∀ n ∈ textTags, n.toList ≠ [] ∧ n.toList.all Char.isLower = true := by decide
  exact ⟨(each name element).1, List.all_eq_true.mp (each name element).2⟩

theorem textModeOf_cuts (name : String) : textModeOf name ≠ .markup ∧ textModeOf name ≠ .rest := by
  rw [textModeOf]
  split_ifs <;> exact ⟨TextMode.noConfusion, TextMode.noConfusion⟩

/-- Behind the text of an element stands the end of the page, or an end tag of the element, in front
of which there is no more text. -/
theorem cutText_spec (name : String) (cs : List Char) :
    (cutText (textModeOf name) cs).1 ++ (cutText (textModeOf name) cs).2 = cs ∧
      ((cutText (textModeOf name) cs).2 = [] ∨ ∃ rest, (cutText (textModeOf name) cs).2 = '<' :: rest ∧
        endTagFollows name.toList rest = true) := by
  rw [textModeOf]
  split_ifs with script escapable
  · subst script
    exact splitScript_spec .plain cs
  · exact splitAtEndTag_spec name.toList cs
  · exact splitAtEndTag_spec name.toList cs

theorem cutText_cons {name : String} {rest : List Char}
    (follows : endTagFollows name.toList rest = true) :
    cutText (textModeOf name) ('<' :: rest) = ([], '<' :: rest) := by
  rw [textModeOf]
  split_ifs with script escapable
  · subst script
    rw [cutText, splitScript_cons]
    exact if_pos ⟨rfl, rfl, follows⟩
  · exact if_pos ⟨rfl, follows⟩
  · exact if_pos ⟨rfl, follows⟩

theorem cutText_snd (name : String) (cs : List Char) :
    (cutText (textModeOf name) (cutText (textModeOf name) cs).2).1 = [] := by
  rcases (cutText_spec name cs).2 with atEnd | ⟨rest, behind, follows⟩
  · rw [atEnd, cutText_nil]
  · rw [behind, cutText_cons follows]

/-- Elements whose content is read as it is, without character references. -/
def verbatimTags : List String :=
  ["script", "style", "xmp", "iframe", "noembed", "noframes", "noscript"]

/-- Whether a text ends in a script inside a comment, as the content of an element.  No end tag of a
script would be one behind it. -/
def EndsNested (name text : String) : Prop :=
  name = "script" ∧ (scriptStateAfter .plain text.toList).isNested = true

theorem nullToReplacement_nullToReplacement (c : Char) :
    nullToReplacement (nullToReplacement c) = nullToReplacement c := by
  rw [nullToReplacement.eq_def c]
  split
  · rfl
  · next other =>
      rw [nullToReplacement, if_neg other]

theorem map_nullToReplacement_map (cs : List Char) :
    (cs.map nullToReplacement).map nullToReplacement = cs.map nullToReplacement := by
  rw [List.map_map]
  exact List.map_congr_left fun c _ => nullToReplacement_nullToReplacement c

/-- Content that was cut off is cut off again in front of every end tag of its element, and the runs
that it is read as are the whole of it. -/
theorem cutText_of_isCutOff {name text : String} (verbatim : name ∈ verbatimTags)
    (cutOff : IsCutOff name text) (outside : ¬ EndsNested name text) {rest : List Char}
    (follows : endTagFollows name.toList rest = true) :
    cutText (textModeOf name) (text.toList ++ '<' :: rest) = (text.toList, '<' :: rest) ∧
      (textRuns (readText (textModeOf name) text.toList)).flatMap (fun run => run.runText.toList) =
        text.toList := by
  have letters : ∀ n ∈ verbatimTags, n.toList.all Char.isLower = true := by decide
  have whole : ∀ cs : List Char, text.toList = cs.map nullToReplacement →
      (textRuns (text.toList.map nullToReplacement)).flatMap (fun run => run.runText.toList) =
        text.toList := by
    intro cs isText
    rw [flatMap_textRuns (null_not_mem_map_nullToReplacement _), isText, map_nullToReplacement_map]
  by_cases script : name = "script"
  · subst script
    rcases cutOff with ⟨cs, -, isText⟩
    have isText : text.toList = (splitScript .plain cs).1.map nullToReplacement := isText
    refine ⟨?_, whole _ isText⟩
    have notNested : (scriptStateAfter .plain text.toList).isNested = false :=
      Bool.eq_false_iff.mpr fun nested => outside ⟨rfl, nested⟩
    rw [isText] at notNested ⊢
    exact (splitScript_cutOff_iff follows cs).mpr notNested
  · have other : ¬ (name = "title" ∨ name = "textarea") := by
      rintro (rfl | rfl) <;> exact absurd verbatim (by decide)
    have isMode : textModeOf name = .verbatim name := by
      rw [textModeOf, if_neg script, if_neg other]
    rw [IsCutOff, isMode] at cutOff
    rcases cutOff with ⟨cs, -, isText⟩
    have isText : text.toList = (splitAtEndTag name.toList cs).1.map nullToReplacement := isText
    rw [isMode]
    refine ⟨?_, whole _ isText⟩
    rw [isText]
    exact splitAtEndTag_cutOff (List.all_eq_true.mp (letters name verbatim)) follows cs

/-- What the reader puts into a text element has been cut off.  Only a `textarea`, whose content has
character references, may be given something else. -/
theorem isCutOff_of_readText {name text : String} {cs : List Char} (noReturn : '\r' ∉ cs)
    (isText : name ≠ "textarea" → text.toList =
      (textRuns (readText (textModeOf name) (cutText (textModeOf name) cs).1)).flatMap
        fun run => run.runText.toList) : IsCutOff name text := by
  have whole : ∀ mode, textModeOf name = mode → (∀ other, mode ≠ .escapable other) →
      ∃ cs, '\r' ∉ cs ∧ text.toList = (cutText mode cs).1.map nullToReplacement := by
    intro mode isMode verbatim
    have other : name ≠ "textarea" := by
      rintro rfl
      exact verbatim "textarea" (isMode ▸ rfl)
    have read : readText mode (cutText mode cs).1 = (cutText mode cs).1.map nullToReplacement := by
      rw [readText]
      exact verbatim
    rw [isMode, read] at isText
    refine ⟨cs, noReturn, ?_⟩
    rw [isText other]
    exact flatMap_textRuns (null_not_mem_map_nullToReplacement _)
  rw [IsCutOff]
  split
  · trivial
  · next mode verbatim =>
      exact whole _ rfl verbatim

/-- The line ends of content that was cut off are line feeds. -/
theorem carriageReturn_not_mem {name text : String} (verbatim : name ∈ verbatimTags)
    (cutOff : IsCutOff name text) : '\r' ∉ text.toList := by
  have element : ∀ n ∈ verbatimTags, n ∈ textTags := by decide
  have modes : ∀ n ∈ verbatimTags, n ≠ "title" ∧ n ≠ "textarea" := by decide
  rw [IsCutOff] at cutOff
  split at cutOff
  · next other isMode =>
      rw [textModeOf] at isMode
      split_ifs at isMode with script escapable
      exact absurd escapable (not_or.mpr (modes name verbatim))
  · rcases cutOff with ⟨cs, noReturn, isText⟩
    rw [isText]
    intro member
    rcases List.mem_map.mp member with ⟨c, among, isReturn⟩
    rw [nullToReplacement_eq_iff (by decide) (by decide)] at isReturn
    apply noReturn
    rw [← (cutText_spec name cs).1, ← isReturn]
    exact List.mem_append_left _ among

end Markup
end Folio
