import Folio.Page.Document
import Folio.Proofs.Markup.Printing
import Folio.Proofs.Markup.Settled.Reading

namespace Folio

open Markup

/-!
# Text elements that are printed and read again

The content of some elements of a page is read as it is, without markup or character references.
Such an element is printed with the text that it holds, character by character, and a reader that has
come to its start tag finds the same text in front of its end tag.  There are two exceptions.  The
text of a `noscript` element is escaped when it is printed, and a script that the end of the page has
cut off inside another script has no end tag that a reader would take for its own.
-/

namespace Markup

namespace Arena

variable {a : Arena}

/-- Whether an element is what is shown of an item of a tree. -/
structure Shows (a : Arena) (id : Nat) (vocabulary : Vocabulary) (e : Element) : Prop where
  kind : a.kind? id = some (.element vocabulary e.tag e.attrs)
  children : ∃ depth, e.children = a.nodesBelow depth id

theorem exists_shows_of_mem {depth id : Nat} {e : Element}
    (member : e.toNode ∈ a.nodesBelow depth id) :
    ∃ child vocabulary, a.Shows child vocabulary e := by
  cases depth with
  | zero => cases member
  | succ depth =>
      rcases List.mem_filterMap.mp member with ⟨child, -, isNode⟩
      split at isNode
      · next vocabulary name attrs isKind =>
          rcases e with ⟨tag, attributes, children⟩
          cases isNode
          exact ⟨child, vocabulary, isKind, depth, rfl⟩
      all_goals cases isNode

/-- Whatever stands below nodes of a tree is shown of some item. -/
theorem exists_shows_of_at? {depth id : Nat} {path : TreePath} {e c : Element}
    (children : e.children = a.nodesBelow depth id) (inside : path ≠ [])
    (atPath : e.at? path = some c) : ∃ child vocabulary, a.Shows child vocabulary c := by
  induction path generalizing depth id e with
  | nil => exact absurd rfl inside
  | cons i path inductionHypothesis =>
      rw [Element.at?_cons] at atPath
      rcases Option.bind_eq_some_iff.mp atPath with ⟨b, atChild, atPath⟩
      have among : b.toNode ∈ e.children :=
        List.mem_of_getElem? (Element.child?_eq_some_iff.mp atChild)
      rw [children] at among
      rcases exists_shows_of_mem among with ⟨child, vocabulary, shows⟩
      cases path with
      | nil =>
          cases atPath
          exact ⟨child, vocabulary, shows⟩
      | cons j path =>
          rcases shows.children with ⟨below, same⟩
          exact inductionHypothesis same (List.cons_ne_nil j path) atPath

theorem exists_shows_of_findIn? {depth id : Nat} {p : Element → Bool} {c : Element}
    (found : Node.findIn? p (a.nodesBelow depth id) = some c) :
    p c = true ∧ ∃ child vocabulary, a.Shows child vocabulary c := by
  have below : Element.findBelow? ⟨"", Dict.empty, a.nodesBelow depth id⟩ p = some c := found
  rw [Element.findBelow?_eq_findSome?] at below
  rcases List.exists_of_findSome?_eq_some below with ⟨path, listed, atPath⟩
  rcases Element.mem_allPaths_iff.mp listed with ⟨inside, other, atOther, passes⟩
  rw [atPath] at atOther
  cases atOther
  exact ⟨passes, exists_shows_of_at? rfl inside atPath⟩

/-- A text element of a finished tree is shown with the text that was cut off for it, and with
nothing else. -/
theorem Shows.isCutOff [FollowedTexts] (sound : a.IsSoundBut none) {id : Nat} {e : Element}
    (shows : a.Shows id .page e) (element : e.tag ∈ textTags) :
    IsCutOff e.tag e.shownText ∧ (e.children = [] ∨ e.children = [.text e.shownText]) := by
  rcases sound.texts id e.tag ⟨element, e.attrs, shows.kind⟩ with ⟨text, holds, whole⟩
  have nothing : e.children = [] → IsCutOff e.tag e.shownText := fun none => by
    rw [Element.shownText, none]
    exact isCutOff_empty e.tag
  rcases shows.children with ⟨_ | depth, same⟩
  · exact ⟨nothing same, Or.inl same⟩
  · rcases holds with ⟨empty, -⟩ | ⟨child, only, isText⟩
    · have none : e.children = [] := by rw [same, nodesBelow, empty]; rfl
      exact ⟨nothing none, Or.inl none⟩
    · have one : e.children = [.text text] := by
        rw [same, nodesBelow, only]
        simp [isText]
      have isShown : e.shownText = text := by
        rw [Element.shownText, one]
        exact String.append_empty
      rw [isShown]
      exact ⟨whole (by rintro ⟨⟩), Or.inr one⟩

end Arena

/-- An element that holds one text, or nothing, is printed with this text; only the text of a `noscript`
element is escaped. -/
theorem Element.print_of_verbatim {e : Element} (verbatim : e.tag ∈ verbatimTags)
    (only : e.children = [] ∨ e.children = [.text e.shownText]) :
    e.print = printStart e.tag e.attrs ++
      (if e.tag = "noscript" then escapeText e.shownText else e.shownText) ++
        ("</" ++ e.tag ++ ">") := by
  have each : ∀ n ∈ verbatimTags, voidTags.contains n = false ∧ lineFeedTags.contains n = false ∧
      (rawTextTags.contains n = true ↔ n ≠ "noscript") := by decide
  rcases each e.tag verbatim with ⟨notVoid, noLineFeed, rawText⟩
  have content : Node.printAll (rawTextTags.contains e.tag) e.children =
      if e.tag = "noscript" then escapeText e.shownText else e.shownText := by
    rcases only with none | one
    · rw [Element.shownText, none]
      split <;> rfl
    · rw [one, Node.printAll, Node.printAll, String.append_empty, Node.print]
      by_cases isNoscript : e.tag = "noscript"
      · rw [if_pos isNoscript, if_neg fun raw => rawText.mp raw isNoscript]
      · rw [if_neg isNoscript, if_pos (rawText.mpr isNoscript)]
  have noFeed : needsLineFeed e.tag e.children = false := by
    rw [needsLineFeed.eq_def]
    split
    · rw [noLineFeed, Bool.false_and]
    · rfl
  rw [Element.print, Element.toNode, Node.print, notVoid, if_neg Bool.false_ne_true, noFeed,
    if_neg Bool.false_ne_true, content]
  simp only [String.append_empty, String.append_assoc]

/-- An escaped text holds no end tag, so that it is cut off as the content of a `noscript` element. -/
theorem isCutOff_escapeText {text : String} (cutOff : IsCutOff "noscript" text) :
    IsCutOff "noscript" (escapeText text) := by
  have noReturn : '\r' ∉ escapeTextList text.toList := fun member =>
    carriageReturn_not_mem (by decide) cutOff (mem_of_mem_escapeTextList (by decide) member)
  have noNull : '\x00' ∉ escapeTextList text.toList := by
    intro member
    rcases cutOff with ⟨cs, -, isText⟩
    apply null_not_mem_map_nullToReplacement (cutText (textModeOf "noscript") cs).1
    rw [← isText]
    exact mem_of_mem_escapeTextList (by decide) member
  have whole : (cutText (textModeOf "noscript") (escapeTextList text.toList)).1 =
      escapeTextList text.toList := by
    rcases cutText_spec "noscript" (escapeTextList text.toList) with
      ⟨whole, atEnd | ⟨rest, behind, -⟩⟩
    · rw [atEnd, List.append_nil] at whole
      exact whole
    · have less : '<' ∈ escapeTextList text.toList := by
        rw [← whole, behind]
        exact List.mem_append_right _ List.mem_cons_self
      exact absurd less (less_not_mem_escapeTextList _)
  refine ⟨escapeTextList text.toList, noReturn, ?_⟩
  calc (escapeText text).toList
    _ = escapeTextList text.toList := String.toList_ofList
    _ = (escapeTextList text.toList).map nullToReplacement := by
      refine (List.map_id _).symm.trans (List.map_congr_left fun c among => ?_)
      have other : c ≠ '\x00' := by
        rintro rfl
        exact noNull among
      rw [nullToReplacement, if_neg other]
      rfl
    _ = (cutText (textModeOf "noscript") (escapeTextList text.toList)).1.map nullToReplacement := by
      rw [whole]

namespace Construction

/-- Construction as reading a page leaves it. -/
def finish (page : String) : Construction :=
  ((readAll (normalizePage page.toList).length (normalizePage page.toList)).run {}).2

theorem nodes_finish (page : String) : (finish page).arena.nodes = readPage page := rfl

/-- Whether construction has just opened an element that holds only text. -/
structure Opens (c : Construction) (id : Nat) (tag : String) : Prop where
  current : c.stack.head? = some id
  element : c.name? id = some (.page, tag)
  mode : c.mode = .inText
  empty : c.arena.children id = #[]

/-- No texts to be followed. -/
abbrev noTexts : Arena.FollowedTexts := ⟨fun _ _ _ => False⟩

theorem children_start (id : Nat) : Arena.start.children id = #[] := by
  rcases id with _ | id <;> rfl

theorem parent?_start (id : Nat) : Arena.start.parent? id = none := by
  rcases id with _ | id <;> rfl

/-- Construction starts with the document, which is no text element. -/
theorem isSettled_start : @IsSettled noTexts {} := by
  have sound : @Arena.IsSoundBut noTexts Arena.start none := by
    refine @Arena.IsSoundBut.mk noTexts Arena.start none ?_ ?_ fun _ _ _ none => none.elim
    · intro x p
      rw [children_start, parent?_start]
      exact iff_of_false (Array.not_mem_empty x) (by rintro ⟨⟩)
    · rintro id name ⟨-, attrs, isKind⟩
      rcases id with _ | id <;> cases isKind
  have soundState := @IsSoundBut.mk noTexts {} none sound ⟨.document, rfl, rfl⟩ (by rintro id ⟨⟩)
    (fun _ none => (List.not_mem_nil none).elim) (fun _ _ none => (List.not_mem_nil none).elim)
    Mode.noConfusion List.not_mem_nil (fun _ none => (List.not_mem_nil none).elim)
  exact @IsSettled.mk noTexts {} soundState (fun _ none => (List.not_mem_nil none).elim)
    Mode.noConfusion (Or.inl rfl) rfl

theorem carriageReturn_not_mem_normalizePage (page : List Char) : '\r' ∉ normalizePage page :=
  carriageReturn_not_mem_lineEnds _

theorem isSoundBut_finish (page : String) : @Arena.IsSoundBut noTexts (finish page).arena none := by
  have atRest := @isAtRest_readAll noTexts {} (normalizePage page.toList)
    (Or.inl (@IsSettled.isAtRest noTexts {} isSettled_start))
    (carriageReturn_not_mem_normalizePage _) _ (Nat.le_refl _)
  rcases atRest with ⟨⟨sound, -⟩, -⟩
  exact sound

/-- A state that has just opened a text element is inside it, and has put no text into it. -/
theorem Opens.isReading [Arena.FollowedTexts] {c : Construction} {id : Nat} {name : String}
    (opens : c.Opens id name) {cs : List Char} (awaits : c.Awaits cs) :
    ∃ tag, c.IsReading id tag "" ∧ tag.name = name := by
  rcases awaits with atRest | ⟨other, tag, text, reading, -, -⟩
  · exact absurd opens.mode atRest.mode
  · have same : other = id := Option.some.inj (reading.stack.symm.trans opens.current)
    subst same
    have isName := reading.name?.symm.trans opens.element
    have empty : text = "" := by
      rcases reading.holds with ⟨-, empty⟩ | ⟨child, only, -⟩
      · exact empty
      · rw [opens.empty] at only
        cases only
    subst empty
    exact ⟨tag, reading, (Prod.mk.inj (Option.some.inj isName)).2⟩

/-- Whether a text is found again in a page: wherever reading the page has just opened an element of
some name in front of the text and an end tag of this name, the element holds the text in the tree
that is built. -/
def FindsAgain (page name text : String) : Prop :=
  ∀ c id after,
    Reads {} (normalizePage page.toList) c
      (normalizePage.lineEnds (text.toList ++ (endTagText name.toList ++ after))) →
    c.Opens id name → (finish page).arena.HasText id name text

/-- A text that was cut off is found again in every page. -/
theorem findsAgain_of_isCutOff {name text : String} (verbatim : name ∈ verbatimTags)
    (whole : IsCutOff name text) (outside : ¬ EndsNested name text) (page : String) :
    FindsAgain page name text := by
  intro c id after reads opens
  have plainTags : ∀ n ∈ verbatimTags, '\r' ∉ endTagText n.toList := by decide
  rw [lineEnds_append (carriageReturn_not_mem verbatim whole),
    lineEnds_append (plainTags name verbatim)] at reads
  let texts : Arena.FollowedTexts := noTexts
  have noReturn := carriageReturn_not_mem_normalizePage page.toList
  have awaits := reads.awaits (Or.inl isSettled_start.isAtRest) noReturn
  rcases opens.isReading awaits with ⟨tag, reading, rfl⟩
  rcases reading.exists_reads verbatim whole outside (normalizePage.lineEnds after) with
    ⟨left, readsOn, settled, has⟩
  have both := reads.trans readsOn
  rcases both.exists_readAll (Nat.le_refl _) with ⟨steps, enough, same⟩
  rw [finish, same]
  exact settled.hasText_readAll has (fun member => noReturn (both.suffix.subset member)) enough

end Construction
end Markup

/-! ## Documents -/

namespace Document

open Construction

theorem exists_children_ofPage (page : String) :
    ∃ depth id, (ofPage page).children = (finish page).arena.nodesBelow depth id := by
  rw [ofPage, ← nodes_finish, Arena.nodes, ofNodes]
  split
  · next article found =>
      rcases Arena.exists_shows_of_findIn? found with ⟨isArticle, id, vocabulary, -, depth, same⟩
      refine ⟨depth, id, ?_⟩
      rw [ofElement, if_pos (by simpa using isArticle), same]
  · split
    · next body found =>
        rcases Arena.exists_shows_of_findIn? found with ⟨-, id, vocabulary, -, depth, same⟩
        exact ⟨depth, id, same⟩
    · exact ⟨0, 0, rfl⟩

/-- Every element below the root of a document is shown of some item of the tree that was read. -/
theorem exists_shows {page : String} {path : TreePath} {e : Element} (inside : path ≠ [])
    (atPath : (ofPage page).at? path = some e) :
    ∃ id vocabulary, (finish page).arena.Shows id vocabulary e := by
  rcases exists_children_ofPage page with ⟨depth, id, children⟩
  exact Arena.exists_shows_of_at? (e := (ofPage page).root) children inside atPath

theorem isCutOff_shownText {page : String} {e : Element} {id : Nat}
    (shows : (finish page).arena.Shows id .page e) (verbatim : e.tag ∈ verbatimTags) :
    IsCutOff e.tag e.shownText ∧ (e.children = [] ∨ e.children = [.text e.shownText]) := by
  have element : ∀ n ∈ verbatimTags, n ∈ textTags := by decide
  exact @Arena.Shows.isCutOff _ noTexts (isSoundBut_finish page) id e shows (element e.tag verbatim)

/-- An element of the page whose content is read as it is, is printed with the text that it holds, and
the print stands in that of the document if no element around it is printed without content.  There
the text is found again. -/
theorem print_verbatimElement {page : String} {path : TreePath} {e : Element} {id : Nat}
    (atPath : (ofPage page).at? path = some e) (shows : (finish page).arena.Shows id .page e)
    (verbatim : e.tag ∈ verbatimTags)
    (plain : e.tag = "noscript" → escapeText e.shownText = e.shownText) :
    e.print = printStart e.tag e.attrs ++ e.shownText ++ ("</" ++ e.tag ++ ">") ∧
      ((∀ a ∈ (ofPage page).ancestors path, ¬ voidTags.contains a.tag = true) →
        e.print.toList <:+: (ofPage page).print.toList) ∧
      (¬ EndsNested e.tag e.shownText → FindsAgain (ofPage page).print e.tag e.shownText) := by
  rcases isCutOff_shownText shows verbatim with ⟨whole, only⟩
  refine ⟨?_, Element.print_infix_print_of_at? atPath, ?_⟩
  · have kept : (if e.tag = "noscript" then escapeText e.shownText else e.shownText) =
        e.shownText := by
      split
      · exact plain ‹_›
      · rfl
    rw [Element.print_of_verbatim verbatim only, kept]
  · exact fun outside => findsAgain_of_isCutOff verbatim whole outside _

/-- The text of a `noscript` element is escaped each time it is printed: what is found again is the
escaped text. -/
theorem print_noscript {page : String} {e : Element} {id : Nat}
    (shows : (finish page).arena.Shows id .page e) (isNoscript : e.tag = "noscript") :
    e.print = printStart e.tag e.attrs ++ escapeText e.shownText ++ "</noscript>" ∧
      ∀ again, FindsAgain again "noscript" (escapeText e.shownText) := by
  have verbatim : e.tag ∈ verbatimTags := isNoscript ▸ by decide
  rcases isCutOff_shownText shows verbatim with ⟨whole, only⟩
  rw [isNoscript] at whole
  refine ⟨?_, findsAgain_of_isCutOff (by decide) (isCutOff_escapeText whole) ?_⟩
  · rw [Element.print_of_verbatim verbatim only, if_pos isNoscript, isNoscript]
    rfl
  · exact fun nested => absurd nested.1 (by decide)

/-- In a tree of the page vocabulary all elements are shown as such. -/
theorem vocabulary_eq_page {a : Arena} {id : Nat} {vocabulary : Vocabulary} {e : Element}
    (plain : (a.items.all fun item => match item.kind with
      | .element vocabulary _ _ => vocabulary == .page
      | _ => true) = true)
    (shows : a.Shows id vocabulary e) : vocabulary = .page := by
  rcases Option.map_eq_some_iff.mp shows.kind with ⟨item, isItem, isKind⟩
  have here := Array.all_eq_true'.mp plain item (Array.mem_of_getElem? isItem)
  rw [isKind] at here
  exact beq_iff_eq.mp here

/-- The first element of an article, as an element that is shown of some item. -/
theorem exists_shows_first (page tag text : String)
    (found : ((ofPage page).at? [0]).map (fun e => (e.tag, e.shownText)) = some (tag, text))
    (plain : ((finish page).arena.items.all fun item => match item.kind with
      | .element vocabulary _ _ => vocabulary == .page
      | _ => true) = true) :
    ∃ e id, (ofPage page).at? [0] = some e ∧ (finish page).arena.Shows id .page e ∧ e.tag = tag ∧
      e.shownText = text := by
  rcases Option.map_eq_some_iff.mp found with ⟨e, atPath, fields⟩
  rcases Prod.mk.inj fields with ⟨isTag, isText⟩
  rcases exists_shows (List.cons_ne_nil 0 []) atPath with ⟨id, vocabulary, shows⟩
  exact ⟨e, id, atPath, vocabulary_eq_page plain shows ▸ shows, isTag, isText⟩

def stylePage : String := "<article><style>p > b</style></article>"

/-- The reader of the printed page behind the start tag of the style sheet. -/
def styleState : Construction × List Char :=
  let read := next {} (normalizePage (ofPage stylePage).print.toList)
  next read.1 read.2

theorem reads_styleState :
    Reads {} (normalizePage (ofPage stylePage).print.toList) styleState.1 styleState.2 :=
  (Reads.start.next (by decide +kernel)).next (by decide +kernel)

theorem print_verbatimElement_stylePage :
    ∃ e, (ofPage stylePage).at? [0] = some e ∧ e.shownText = "p > b" ∧
      e.print = printStart "style" e.attrs ++ "p > b" ++ "</style>" ∧
      e.print.toList <:+: (ofPage stylePage).print.toList ∧
      (finish (ofPage stylePage).print).arena.HasText 5 "style" "p > b" := by
  rcases exists_shows_first stylePage "style" "p > b" (by decide +kernel)
    (by decide +kernel) with ⟨e, id, atPath, shows, isTag, isText⟩
  have result := print_verbatimElement atPath shows (isTag ▸ by decide)
    fun noscript => absurd (isTag.symm.trans noscript) (by decide)
  rw [isTag, isText] at result
  rcases result with ⟨printed, stands, again⟩
  refine ⟨e, atPath, isText, printed, stands ?_, ?_⟩
  · intro a member
    rw [ancestors, Element.ancestors] at member
    rcases List.mem_cons.mp member with rfl | below
    · exact (by decide : ¬ voidTags.contains "article" = true)
    · cases atRoot : (ofPage stylePage).root.child? 0 <;> rw [atRoot] at below <;> cases below
  · have left : styleState.2 = normalizePage.lineEnds
          ("p > b".toList ++ (endTagText "style".toList ++ "</article>".toList)) ∧
        styleState.1.stack.head? = some 5 ∧ styleState.1.name? 5 = some (.page, "style") ∧
        styleState.1.mode = .inText ∧ styleState.1.arena.children 5 = #[] := by decide +kernel
    exact again (fun nested => absurd nested.1 (by decide)) styleState.1 5 "</article>".toList
      (left.1 ▸ reads_styleState) ⟨left.2.1, left.2.2.1, left.2.2.2.1, left.2.2.2.2⟩

def noscriptPage : String := "<article><noscript><b>&amp;</b></noscript></article>"

/-- The text of an element whose content is read as it is need not stand in the printed page. -/
theorem not_forall_shownText_infix_print :
    ¬ ∀ (page : String) (path : TreePath) (e : Element) (id : Nat),
      (ofPage page).at? path = some e → (finish page).arena.Shows id .page e →
        e.tag ∈ verbatimTags → e.shownText.toList <:+: (ofPage page).print.toList := by
  intro stands
  rcases exists_shows_first noscriptPage "noscript" "<b>&amp;</b>" (by decide +kernel)
    (by decide +kernel) with ⟨e, id, atPath, shows, isTag, isText⟩
  have inPrint := stands noscriptPage [0] e id atPath shows (isTag ▸ by decide)
  rw [isText] at inPrint
  revert inPrint
  decide +kernel

end Document

end Folio
