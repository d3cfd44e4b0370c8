import Folio.Markup.Printer
import Folio.Page.CodeBlock
import Folio.Proofs.Markup.Unescape
import Mathlib.Data.List.DropRight

namespace Folio

open Markup

/-!
# Code that is only escaped

Code that is not highlighted goes a long way to its reader: line breaks are trimmed, the rest is
escaped and kept as markup, and whoever asks for the text of the block takes tags out and decodes
references.  Nothing is lost on that way.  Escaped code holds no tag, its references are decoded
once each, and it ends as the code does, so that no line feed is trimmed a second time.
-/

namespace Text

theorem trimRight_eq_self {p : Char → Bool} {cs : List Char}
    (ends : ∀ c, cs.getLast? = some c → p c = false) : trimRight p cs = cs := by
  refine List.rdropWhile_eq_self_iff.mpr fun nonempty => ?_
  rw [ends _ (List.getLast?_eq_some_getLast nonempty)]
  exact Bool.false_ne_true

/-- What trimming leaves does not end in a character that it drops. -/
theorem getLast?_trimBoth {p : Char → Bool} {cs : List Char} {c : Char}
    (last : (trimBoth p cs).getLast? = some c) : p c = false := by
  rcases List.mem_getLast?_eq_getLast last with ⟨nonempty, rfl⟩
  exact Bool.not_eq_true _ ▸ List.rdropWhile_last_not p (cs.dropWhile p) nonempty

end Text

namespace Markup

/-- An escaped text ends as the text does, or in the semicolon of a reference. -/
theorem getLast?_escapeTextList {cs : List Char} {c : Char}
    (last : (escapeTextList cs).getLast? = some c) : c = ';' ∨ cs.getLast? = some c := by
  rcases List.eq_nil_or_concat' cs with rfl | ⟨front, x, rfl⟩
  · cases last
  · rw [escapeTextList, List.flatMap_append, List.flatMap_singleton] at last
    rw [List.getLast?_concat]
    rcases escapeTextChar_cases x with ⟨-, -, -, copied⟩ | rfl | rfl | rfl
    · rw [copied, List.getLast?_concat] at last
      exact Or.inr last
    -- The other characters are written as references.
    all_goals
      rw [List.getLast?_append] at last
      exact Or.inl (Option.some.inj last).symm

end Markup

/-- Whether code in a language is only escaped: the highlighter does no more with any code, or it
does not know the language and nobody insists. -/
def Highlighting.OnlyEscapes (h : Highlighting) (language : String) : Prop :=
  h.highlighter = .plain ∨
    (h.strict = false ∧ h.highlighter.supports (h.resolve language) = false)

theorem Highlighting.OnlyEscapes.highlight {h : Highlighting} {language : String}
    (only : h.OnlyEscapes language) (code : String) :
    h.highlight code language = .ok (escapeText code) := by
  rw [Highlighting.highlight]
  rcases only with plain | ⟨lenient, unknown⟩
  · rw [plain]
    rfl
  · rw [unknown, lenient]
    rfl

/-- Prepared code ends in no line feed, and neither does its escaped form. -/
theorem trimFinalLineFeeds_escapeText_prepareCode (removeIndent : Bool) (code : String) :
    Text.trimFinalLineFeeds (escapeText (prepareCode removeIndent code)) =
      escapeText (prepareCode removeIndent code) := by
  rw [Text.trimFinalLineFeeds, Text.trimRight_eq_self, String.ofList_toList]
  intro c last
  rw [escapeText, String.toList_ofList] at last
  rcases getLast?_escapeTextList last with rfl | ofCode
  · rfl
  · rw [prepareCode, Text.trimLineBreaks, String.toList_ofList] at ofCode
    have noBreak := Text.getLast?_trimBoth ofCode
    rw [Text.isLineBreak, Bool.or_eq_false_iff] at noBreak
    exact noBreak.1

/-- The text of a container is the text that its markup shows. -/
theorem shownText_codeContainer (block : Element) (language markup : String) :
    (codeContainer block language markup).shownText = stripTags markup := by
  simp [codeContainer, Element.shownText, Element.toNode, Node.shownTextOf, Node.shownText]

/-- Code that is only escaped is shown exactly: the text of the container is the prepared code, and
in print the code is what a text in its place would be. -/
theorem codeContainer_shows_code {h : Highlighting} {language : String}
    (only : h.OnlyEscapes language) (block : Element) (removeIndent : Bool) (code : String) :
    ∃ markup,
      h.highlightBlock (prepareCode removeIndent code) language = .ok markup ∧
        (codeContainer block language markup).shownText = prepareCode removeIndent code ∧
        ∃ shown, (codeContainer block language markup).findBelow? (·.tag == "code") = some shown ∧
          shown.attr? languageAttr = some language ∧
          shown.print =
            { shown with children := [.text (prepareCode removeIndent code)] }.print := by
  refine ⟨escapeText (prepareCode removeIndent code), ?_, ?_, _, rfl, rfl, ?_⟩
  · rw [Highlighting.highlightBlock, only.highlight, Except.map,
      trimFinalLineFeeds_escapeText_prepareCode]
  · rw [shownText_codeContainer, stripTags_escapeText]
  · rfl

/-- A highlighting that knows no language. -/
def noLanguages : Highlighting := .ofHighlighter
  { name := "None"
    supports := fun _ => false
    highlight := fun _ name => .error (.unsupported name) }

/-- Indented code that looks like a tag and spells a reference, in a language that is not known. -/
theorem codeContainer_shows_trickyCode :
    noLanguages.OnlyEscapes "cobol" ∧
      ∃ markup, noLanguages.highlightBlock "<b>\n  &lt;" "cobol" = .ok markup ∧
        (codeContainer { tag := "pre" } "cobol" markup).shownText = "<b>\n  &lt;" ∧
        prepareCode true "\n\t<b>\n\t  &lt;\r\n" = "<b>\n  &lt;" := by
  have only : noLanguages.OnlyEscapes "cobol" := Or.inr ⟨rfl, rfl⟩
  have prepared : prepareCode true "\n\t<b>\n\t  &lt;\r\n" = "<b>\n  &lt;" := by decide +kernel
  rcases codeContainer_shows_code only { tag := "pre" } true "\n\t<b>\n\t  &lt;\r\n" with
    ⟨markup, highlighted, shown, -⟩
  rw [prepared] at highlighted shown
  exact ⟨only, markup, highlighted, shown, prepared⟩

end Folio
