import Folio.Proofs.Markup.TextRun

namespace Folio
namespace Markup

/-!
# What is left of a page

Whatever the reader finds, what it leaves of a page is the end of the page.  Each time it takes a
character at least, so that it comes to the end of a page in as many steps as the page has
characters.
-/

theorem suffix_dropWhile_drop (p : Char → Bool) (cs : List Char) :
    (cs.dropWhile p).drop 1 <:+ cs :=
  (List.drop_suffix 1 _).trans (List.dropWhile_suffix p)

theorem suffix_commentBody (cs : List Char) : (commentBody cs).2 <:+ cs := by
  fun_induction commentBody cs with
  | case1 => exact List.suffix_rfl
  | case2 cs => exact ⟨['-', '-', '>'], rfl⟩
  | case3 cs => exact ⟨['-', '-', '!', '>'], rfl⟩
  | case4 => exact List.nil_suffix
  | case5 => exact List.nil_suffix
  | case6 => exact List.nil_suffix
  | case7 c cs _ _ _ _ _ rest inductionHypothesis =>
      exact inductionHypothesis.trans (List.suffix_cons c cs)

theorem suffix_readComment (cs : List Char) : (readComment cs).2 <:+ cs := by
  rw [readComment.eq_def]
  split
  · exact List.suffix_cons _ _
  · exact ⟨['-', '>'], rfl⟩
  · exact suffix_commentBody _

theorem suffix_brokenComment (cs : List Char) : (brokenComment cs).2 <:+ cs :=
  suffix_dropWhile_drop _ cs

theorem suffix_splitCharacterData (cs : List Char) :
    (readDeclaration.splitCharacterData cs).2 <:+ cs := by
  fun_induction readDeclaration.splitCharacterData cs with
  | case1 => exact List.suffix_rfl
  | case2 cs => exact ⟨[']', ']', '>'], rfl⟩
  | case3 c cs _ rest inductionHypothesis =>
      exact inductionHypothesis.trans (List.suffix_cons c cs)

theorem suffix_readQuoted (quote : Char) (cs : List Char) : (readQuoted quote cs).2.2 <:+ cs := by
  fun_induction readQuoted quote cs with
  | case1 => exact List.suffix_rfl
  | case2 cs => exact List.suffix_cons _ cs
  | case3 => exact List.suffix_rfl
  | case4 c cs _ _ rest inductionHypothesis =>
      exact inductionHypothesis.trans (List.suffix_cons c cs)

/-- What is left behind white space is the end of what was left. -/
theorem suffix_of_dropWhile {p : Char → Bool} {cs rest : List Char} (isRest : cs.dropWhile p = rest) :
    rest <:+ cs :=
  isRest ▸ List.dropWhile_suffix p

theorem suffix_readSystemId (d : DocumentType) (required : Bool) (cs : List Char) :
    (readSystemId d required cs).2 <:+ cs := by
  rw [readSystemId]
  split
  · exact List.nil_suffix
  · next c rest isRest =>
      have behind := suffix_of_dropWhile isRest
      have further := (List.suffix_cons c rest).trans behind
      split
      · exact further
      · split
        · have text := (suffix_readQuoted c rest).trans further
          dsimp only
          split
          · exact (suffix_dropWhile_drop _ _).trans text
          · split
            · exact List.nil_suffix
            · next c' rest' isRest' =>
                exact ((suffix_dropWhile_drop _ _).trans (suffix_of_dropWhile isRest')).trans text
        · exact (suffix_dropWhile_drop _ _).trans behind

theorem suffix_readDocumentIds (d : DocumentType) (cs : List Char) :
    (readDocumentIds d cs).2 <:+ cs := by
  rw [readDocumentIds]
  split
  · exact List.nil_suffix
  · next rest isRest =>
      exact (List.suffix_cons _ rest).trans (suffix_of_dropWhile isRest)
  · have behind : cs.dropWhile isMarkupSpace <:+ cs := List.dropWhile_suffix _
    have keyword := (List.drop_suffix 6 (cs.dropWhile isMarkupSpace)).trans behind
    dsimp only
    split
    · split
      · exact List.nil_suffix
      · next c rest isRest =>
          have quoted := (suffix_of_dropWhile isRest).trans keyword
          split
          · have text := (suffix_readQuoted c rest).trans ((List.suffix_cons c rest).trans quoted)
            split
            · exact (suffix_readSystemId _ _ _).trans text
            · exact (suffix_dropWhile_drop _ _).trans text
          · exact (suffix_dropWhile_drop _ _).trans quoted
    · split
      · exact (suffix_readSystemId _ _ _).trans keyword
      · exact (suffix_dropWhile_drop _ _).trans behind

theorem suffix_readDocumentType (cs : List Char) : (readDocumentType cs).2 <:+ cs := by
  rw [readDocumentType]
  split
  · exact List.nil_suffix
  · next rest isRest =>
      exact (List.suffix_cons _ rest).trans (suffix_of_dropWhile isRest)
  · exact (suffix_readDocumentIds _ _).trans
      ((List.dropWhile_suffix _).trans (List.dropWhile_suffix _))

theorem suffix_readDeclaration (characterData : Bool) (cs : List Char) :
    (readDeclaration characterData cs).2 <:+ cs := by
  rw [readDeclaration]
  repeat' split
  · exact (suffix_readComment _).trans (List.drop_suffix _ _)
  · exact (suffix_readDocumentType _).trans (List.drop_suffix _ _)
  · exact (suffix_splitCharacterData _).trans (List.drop_suffix _ _)
  · exact suffix_brokenComment _

theorem suffix_readAttrs {state : TagState} {attrs : Dict String} {cs : List Char}
    {read : Dict String × Bool × List Char} (isRead : readAttrs state attrs cs = some read) :
    read.2.2 <:+ cs := by
  induction cs generalizing state attrs with
  | nil => cases isRead
  | cons c cs inductionHypothesis =>
      -- each branch ends here, or goes on in some state with what is left
      have further : ∀ {state attrs}, readAttrs state attrs cs = some read → read.2.2 <:+ c :: cs :=
        fun isRead => (inductionHypothesis isRead).trans (List.suffix_cons c cs)
      have ended : ∀ {attrs selfClosing}, some (attrs, selfClosing, cs) = some read →
          read.2.2 <:+ c :: cs := by
        rintro attrs selfClosing ⟨⟩
        exact List.suffix_cons c cs
      rw [readAttrs.eq_def] at isRead
      dsimp only at isRead
      repeat' split at isRead
      all_goals first | exact ended isRead | exact further isRead

theorem suffix_readTag {cs rest : List Char} {tag : Tag} (isRead : readTag cs = some (tag, rest)) :
    rest <:+ cs := by
  rcases Option.map_eq_some_iff.mp isRead with ⟨read, isRead, same⟩
  have isRest : read.2.2 = rest := (Prod.ext_iff.mp same).2
  rw [← isRest]
  exact (suffix_readAttrs isRead).trans (List.dropWhile_suffix _)

theorem suffix_readMarkup (characterData : Bool) (cs : List Char) :
    (readMarkup characterData cs).2 <:+ cs := by
  rw [readMarkup.eq_def]
  split
  · exact (suffix_readDeclaration _ _).trans (List.suffix_cons _ _)
  · exact suffix_brokenComment _
  · exact List.nil_suffix
  · next c rest =>
      have behind : c :: rest <:+ '/' :: c :: rest := List.suffix_cons _ _
      split
      · split
        · next isRead =>
            exact (suffix_readTag isRead).trans behind
        · exact List.nil_suffix
      · split
        · exact (List.suffix_cons c rest).trans behind
        · exact (suffix_brokenComment _).trans behind
  · split
    · split
      · exact suffix_readTag ‹_›
      · exact List.nil_suffix
    · exact List.suffix_rfl
  · exact List.nil_suffix

theorem cutText_append {mode : TextMode} (cuts : mode ≠ .markup ∧ mode ≠ .rest) (cs : List Char) :
    (cutText mode cs).1 ++ (cutText mode cs).2 = cs := by
  cases mode with
  | markup => exact absurd rfl cuts.1
  | rest => exact absurd rfl cuts.2
  | escapable name => exact (splitAtEndTag_spec name.toList cs).1
  | verbatim name => exact (splitAtEndTag_spec name.toList cs).1
  | script => exact (splitScript_spec .plain cs).1

/-- One character at least is gone from what is left. -/
theorem suffix_readTokens (mode : TextMode) (characterData : Bool) (cs : List Char) :
    (readTokens mode characterData cs).2 <:+ cs.drop 1 := by
  by_cases cuts : mode ≠ .markup ∧ mode ≠ .rest
  · have whole := cutText_append cuts cs
    rw [readTokens_of_cut cuts]
    cases isText : (cutText mode cs).1 with
    | nil =>
        rw [isText, List.nil_append] at whole
        rw [whole]
        exact suffix_readMarkup false _
    | cons c text =>
        rw [isText] at whole
        have behind : text ++ (cutText mode cs).2 = cs.drop 1 := congrArg (List.drop 1) whole
        exact ⟨text, behind⟩
  · cases mode with
    | markup =>
        rw [readTokens.eq_def]
        dsimp only
        split
        · exact suffix_readMarkup characterData _
        · next other =>
            rcases cs with _ | ⟨c, cs⟩
            · exact List.suffix_rfl
            · have notLess : c ≠ '<' := fun same => other cs (same ▸ rfl)
              dsimp only
              rw [List.dropWhile_cons_of_pos (by simpa using notLess)]
              exact List.dropWhile_suffix _
    | rest => exact List.nil_suffix
    | _ => exact absurd ⟨TextMode.noConfusion, TextMode.noConfusion⟩ cuts

theorem length_readTokens_lt (mode : TextMode) (characterData : Bool) {cs : List Char}
    (more : cs ≠ []) : (readTokens mode characterData cs).2.length < cs.length := by
  have shorter := (suffix_readTokens mode characterData cs).length_le
  have positive := List.length_pos_iff.mpr more
  rw [List.length_drop] at shorter
  omega

theorem carriageReturn_not_mem_lineEnds (cs : List Char) : '\r' ∉ normalizePage.lineEnds cs := by
  fun_induction normalizePage.lineEnds cs with
  | case1 => exact List.not_mem_nil
  | case2 rest inductionHypothesis =>
      intro member
      rcases List.mem_cons.mp member with impossible | later
      · exact absurd impossible (by decide)
      · exact inductionHypothesis later
  | case3 c rest _ inductionHypothesis =>
      intro member
      rcases List.mem_cons.mp member with here | later
      · split at here
        · exact absurd here (by decide)
        · next other =>
            exact other here.symm
      · exact inductionHypothesis later

/-- Text without carriage returns is left as it is. -/
theorem lineEnds_append {cs : List Char} (noReturn : '\r' ∉ cs) (rest : List Char) :
    normalizePage.lineEnds (cs ++ rest) = cs ++ normalizePage.lineEnds rest := by
  induction cs with
  | nil => rfl
  | cons c cs inductionHypothesis =>
      have other : c ≠ '\r' := fun same => noReturn (same ▸ List.mem_cons_self)
      rw [List.cons_append, normalizePage.lineEnds.eq_def]
      split
      · next impossible =>
          cases impossible
      · next impossible =>
          exact absurd (List.cons.inj impossible).1 other
      · next same =>
          cases same
          rw [if_neg other, inductionHypothesis fun member => noReturn (List.mem_cons_of_mem c member)]
          rfl

end Markup
end Folio
