import Folio.Proofs.Markup.Printing
import Folio.Proofs.Markup.Substitution
import Folio.Proofs.Page.TokenEscape

namespace Folio

open Markup

/-!
# When the escape of tokens reaches a tag

On a page of elements and texts alone every `<` of the print begins a tag, so there is nothing that
should be escaped.  The escape cannot see where tags begin and end, and looks for openings of tokens
in the text of the page.  With names as readers of pages make them, an opening is found only as the
end of a start tag.  What is in a punctuation token then never looks like the bare beginning of a
tag.  But of a document type token the escape checks only that a `<` comes next, which is so
whenever the element does not begin with text: it takes the `<` of the tag behind the opening.
-/

section Patterns

variable {front rest word opening pattern : List Char} {c : Char}

theorem infix_append_iff_of_head (absent : c ∉ front) :
    c :: word <:+: front ++ rest ↔ c :: word <:+: rest := by
  constructor
  · intro found
    rcases List.infix_append_iff.mp found with
      inFront | inRest | ⟨first, second, divided, isEnd, isStart⟩
    · exact absurd (inFront.subset List.mem_cons_self) absent
    · exact inRest
    · cases first with
      | nil =>
          rw [divided]
          exact isStart.isInfix
      | cons d first =>
          rw [List.cons_append, List.cons.injEq] at divided
          exact absurd (isEnd.subset (divided.1 ▸ List.mem_cons_self)) absent
  · exact fun found => found.trans (List.suffix_append front rest).isInfix

/-- A text can be cut at a character that is not in a pattern. -/
theorem infix_append_cons_iff (nonempty : pattern ≠ []) (absent : c ∉ pattern) :
    pattern <:+: front ++ c :: rest ↔ pattern <:+: front ∨ pattern <:+: rest := by
  constructor
  · intro found
    rcases List.infix_append_iff.mp found with
      inFront | behind | ⟨first, second, divided, isEnd, isStart⟩
    · exact Or.inl inFront
    · rcases List.infix_cons_iff.mp behind with atCut | inRest
      · rcases List.prefix_cons_iff.mp atCut with empty | ⟨later, begins, -⟩
        · exact absurd empty nonempty
        · exact absurd (begins ▸ List.mem_cons_self) absent
      · exact Or.inr inRest
    · rcases List.prefix_cons_iff.mp isStart with rfl | ⟨later, rfl, -⟩
      · rw [List.append_nil] at divided
        exact Or.inl (divided ▸ isEnd.isInfix)
      · exact absurd (divided ▸ List.mem_append_right first List.mem_cons_self) absent
  · rintro (inFront | inRest)
    · exact inFront.trans (List.prefix_append front _).isInfix
    · exact inRest.trans ((List.suffix_cons c rest).trans (List.suffix_append front _)).isInfix

/-- A pattern with a `c` in it begins in front of the first `c` of a text and goes on behind that,
or all of it stands behind. -/
theorem infix_append_cons_iff_of_delimiter (word : List Char) (nonempty : opening ≠ [])
    (onlyThere : c ∉ opening) (absent : c ∉ front) :
    opening ++ c :: word <:+: front ++ c :: rest ↔
      (opening <:+ front ∧ word <+: rest) ∨ opening ++ c :: word <:+: rest := by
  constructor
  · intro found
    rcases List.infix_append_iff.mp found with
      inFront | behind | ⟨first, second, divided, isEnd, isStart⟩
    · exact absurd (inFront.subset (List.mem_append_right _ List.mem_cons_self)) absent
    · rcases List.infix_cons_iff.mp behind with atCut | inRest
      · rcases List.exists_cons_of_ne_nil nonempty with ⟨d, opening, rfl⟩
        rw [List.cons_append, List.cons_prefix_cons] at atCut
        exact absurd (atCut.1 ▸ List.mem_cons_self) onlyThere
      · exact Or.inr inRest
    · -- The pattern is divided at the cut: the `c` of the text is its own.
      rcases List.append_eq_append_iff.mp divided with ⟨more, rfl, same⟩ | ⟨more, rfl, same⟩
      · rcases List.cons_eq_append_iff.mp same with ⟨rfl, rfl⟩ | ⟨more, rfl, -⟩
        · rw [List.append_nil] at isEnd
          exact Or.inl ⟨isEnd, (List.cons_prefix_cons.mp isStart).2⟩
        · exact absurd (isEnd.subset (List.mem_append_right _ List.mem_cons_self)) absent
      · cases more with
        | nil =>
            rw [List.append_nil]
            rw [List.nil_append] at same
            exact Or.inl ⟨isEnd, (List.cons_prefix_cons.mp (same ▸ isStart)).2⟩
        | cons d more =>
            rw [same, List.cons_append, List.cons_prefix_cons] at isStart
            exact absurd (isStart.1 ▸ List.mem_append_right _ List.mem_cons_self) onlyThere
  · rintro (⟨⟨earlier, rfl⟩, ⟨later, rfl⟩⟩ | inRest)
    · exact ⟨earlier, later, by simp⟩
    · exact inRest.trans ((List.suffix_cons c rest).trans (List.suffix_append front _)).isInfix

end Patterns

namespace Markup

/-- What the names in a page are like that was read: there is no space and no `>` in them, and a tag
begins with neither `<` nor `/`. -/
structure HasReadNames (tag : String) (attrs : Dict String) : Prop where
  begins : ∃ c cs, tag.toList = c :: cs ∧ c ≠ '<' ∧ c ≠ '/'
  noSpace : ' ' ∉ tag.toList
  noGreater : '>' ∉ tag.toList
  attributes : ∀ name ∈ attrs.keys, ' ' ∉ name.toList ∧ '>' ∉ name.toList

/-- Whether a tree consists of elements and texts, and none of its elements holds raw text. -/
inductive Node.IsPlain : Node → Prop where
  | element {tag : String} {attrs : Dict String} {children : List Node}
      (names : HasReadNames tag attrs) (escaped : rawTextTags.contains tag = false)
      (below : ∀ child ∈ children, child.IsPlain) : Node.IsPlain (.element tag attrs children)
  | text (s : String) : Node.IsPlain (.text s)

/-- Whether the first thing that is printed of some nodes is text. -/
def Node.beginsWithText : List Node → Bool
  | .text s :: nodes => !s.isEmpty || beginsWithText nodes
  | _ => false

/-- Whether an element is printed with what it holds. -/
def Element.showsContent (e : Element) : Bool := !voidTags.contains e.tag

/-- The start tag of an element. -/
def Element.startText (e : Element) : List Char := (printStart e.tag e.attrs).toList

section StartTag

variable {tag : String} {attrs : Dict String}

theorem HasReadNames.greater_not_mem_openTag (names : HasReadNames tag attrs) :
    '>' ∉ openTag tag attrs.entries :=
  Markup.greater_not_mem_openTag names.noGreater fun _ member =>
    (names.attributes _ (List.mem_map_of_mem member)).2

theorem not_infix_flatMap_attributeText {entries : List (String × String)}
    (named : ∀ a ∈ entries, ' ' ∉ a.1.toList) :
    ¬ "<span ".toList <:+: entries.flatMap fun a => attributeText a.1 a.2 := by
  induction entries with
  | nil => decide
  | cons a entries inductionHypothesis =>
      rw [List.forall_mem_cons] at named
      have cut : attributeText a.1 a.2 ++ entries.flatMap (fun a => attributeText a.1 a.2) =
          ([' '] ++ a.1.toList) ++ '=' :: ([] ++ '"' :: (escapeValueList a.2.toList ++ '"' ::
            entries.flatMap fun a => attributeText a.1 a.2)) := by
        simp [attributeText]
      rw [List.flatMap_cons, cut, infix_append_cons_iff (by decide) (by decide),
        infix_append_cons_iff (by decide) (by decide),
        infix_append_cons_iff (by decide) (by decide)]
      rintro (inName | inGap | inValue | later)
      · have inName := (infix_append_iff_of_head (by decide)).mp inName
        exact named.1 (inName.subset (by decide))
      · exact absurd inGap (by decide)
      · exact less_not_mem_escapeValueList _ (inValue.subset (by decide))
      · exact inductionHypothesis named.2 later

/-- If `<span` and a space stand in a start tag, its name ends in `span`. -/
theorem suffix_tag_of_infix_openTag (names : HasReadNames tag attrs)
    (found : "<span ".toList <:+: openTag tag attrs.entries) :
    "span".toList <:+ tag.toList := by
  have noSpace : ' ' ∉ '<' :: tag.toList := by simp [names.noSpace]
  have named : ∀ a ∈ attrs.entries, ' ' ∉ a.1.toList :=
    fun a member => (names.attributes a.1 (List.mem_map_of_mem member)).1
  have absent := not_infix_flatMap_attributeText named
  have atEnd : "<span".toList <:+ '<' :: tag.toList := by
    rw [openTag, ← List.cons_append] at found
    cases entries : attrs.entries with
    | nil =>
        rw [entries, List.flatMap_nil, List.append_nil] at found
        exact absurd (found.subset (by decide)) noSpace
    | cons a rest =>
        rw [entries, List.flatMap_cons, attributeText, List.cons_append] at found absent
        rcases (infix_append_cons_iff_of_delimiter [] (List.cons_ne_nil '<' "span".toList)
          (by decide) noSpace).mp found with ⟨atEnd, -⟩ | later
        · exact atEnd
        · exact absurd (later.trans (List.suffix_cons _ _).isInfix) absent
  rcases List.suffix_cons_iff.mp atEnd with same | below
  · have whole : "span".toList = tag.toList := (List.cons.inj same).2
    exact whole ▸ List.suffix_rfl
  · exact (List.suffix_cons '<' _).trans below

theorem suffix_tag_of_suffix_openTag {opening : List Char} (isSpan : "<span ".toList <+: opening)
    (names : HasReadNames tag attrs) (opens : opening <:+ openTag tag attrs.entries) :
    "span".toList <:+ tag.toList :=
  suffix_tag_of_infix_openTag names (isSpan.isInfix.trans opens.isInfix)

end StartTag

namespace Element

/-- What is printed of an element behind its start tag. -/
def contentText (e : Element) : List Char :=
  (if needsLineFeed e.tag e.children then ['\n'] else []) ++
    ((Node.printAll false e.children).toList ++ '<' :: '/' :: (e.tag.toList ++ ['>']))

theorem toList_print_of_not_showsContent {tag : String} {attrs : Dict String}
    {children : List Node} (shows : showsContent ⟨tag, attrs, children⟩ = false) :
    ((Node.element tag attrs children).print false).toList =
      openTag tag attrs.entries ++ ['>'] := by
  rw [showsContent, Bool.not_eq_false'] at shows
  rw [Node.print_of_void false shows, toList_printStart]

theorem toList_print_of_showsContent {tag : String} {attrs : Dict String} {children : List Node}
    (shows : showsContent ⟨tag, attrs, children⟩ = true)
    (escaped : rawTextTags.contains tag = false) :
    ((Node.element tag attrs children).print false).toList =
      openTag tag attrs.entries ++ '>' :: contentText ⟨tag, attrs, children⟩ := by
  rw [showsContent, Bool.not_eq_true'] at shows
  rw [Node.toList_print_of_shown false (by simpa using shows), escaped]
  simp only [toList_printStart, contentText, apply_ite String.toList]
  simp

/-- Elements whose names end like that of a token hold something, and no line feed is put in. -/
theorem of_suffix_span {e : Element} (isSpan : "span".toList <:+ e.tag.toList) :
    e.showsContent = true ∧ needsLineFeed e.tag e.children = false := by
  have others : ∀ tag ∈ voidTags ++ lineFeedTags, ¬ "span".toList <:+ tag.toList := by decide
  have notVoid : voidTags.contains e.tag = false := by
    simpa using fun member => others e.tag (List.mem_append_left _ member) isSpan
  have noLineFeed : lineFeedTags.contains e.tag = false := by
    simpa using fun member => others e.tag (List.mem_append_right _ member) isSpan
  refine ⟨by rw [showsContent, notVoid]; rfl, ?_⟩
  unfold needsLineFeed
  split
  · rw [noLineFeed, Bool.false_and]
  · rfl

end Element

namespace Node

/-- Behind a start tag comes a `<` unless there is text, and it begins a tag with a name. -/
theorem prefix_printAll_append {nodes : List Node} (isPlain : ∀ n ∈ nodes, n.IsPlain)
    {tag : String} {attrs : Dict String} (names : HasReadNames tag attrs) (rest : List Char) :
    (['<'] <+: (printAll false nodes).toList ++ '<' :: '/' :: (tag.toList ++ rest) ↔
        beginsWithText nodes = false) ∧
      ¬ ['<', '<'] <+: (printAll false nodes).toList ++ '<' :: '/' :: (tag.toList ++ rest) ∧
      ¬ ['<', '/', '<'] <+:
        (printAll false nodes).toList ++ '<' :: '/' :: (tag.toList ++ rest) := by
  induction nodes with
  | nil =>
      rcases names.begins with ⟨c, cs, whole, noLess, -⟩
      have empty : (printAll false []).toList = [] := rfl
      rw [empty, whole]
      simp [beginsWithText, noLess.symm]
  | cons n nodes inductionHypothesis =>
      rw [List.forall_mem_cons] at isPlain
      rw [printAll, String.toList_append, List.append_assoc]
      cases isPlain.1 with
      | text s =>
          by_cases empty : s = ""
          · subst empty
            exact inductionHypothesis isPlain.2
          · have plain := less_not_mem_escapeTextList s.toList
            rcases List.exists_cons_of_ne_nil (escapeTextList_ne_nil empty) with ⟨c, cs, escaped⟩
            have noLess : c ≠ '<' := by
              rintro rfl
              exact plain (escaped ▸ List.mem_cons_self)
            rw [print, if_neg Bool.false_ne_true, escapeText, String.toList_ofList, escaped]
            simp [beginsWithText, empty, noLess.symm]
      | @element tag' attrs' children names' =>
          rcases names'.begins with ⟨c, cs, whole, noLess, noSlash⟩
          rcases prefix_print false tag' attrs' children with ⟨later, printed⟩
          rw [← printed, toList_printStart, openTag, whole]
          simp [beginsWithText, noLess.symm, noSlash.symm]

end Node

/-! ## Patterns in a print -/

/-- A pattern that begins with the end of a start tag and goes on with a word.  The elements that
have the word behind their start tag are told by `view`. -/
structure IsTagPattern (opening word : List Char) (view : Element → Prop) : Prop where
  isSpan : "<span ".toList <+: opening
  plain : '>' ∉ opening
  follows : ∀ e : Element, e.toNode.IsPlain → opening <:+ openTag e.tag e.attrs.entries →
    ∀ rest, word <+: e.contentText ++ rest ↔ view e

namespace IsTagPattern

variable {opening word : List Char} {view : Element → Prop}

theorem exists_cons (isPattern : IsTagPattern opening word view) :
    ∃ later, opening = '<' :: later := by
  rcases isPattern.isSpan with ⟨later, rfl⟩
  exact ⟨_, rfl⟩

theorem infix_append_iff (isPattern : IsTagPattern opening word view) {front : List Char}
    (absent : '<' ∉ front) (rest : List Char) :
    opening ++ '>' :: word <:+: front ++ rest ↔ opening ++ '>' :: word <:+: rest := by
  rcases isPattern.exists_cons with ⟨later, rfl⟩
  exact infix_append_iff_of_head absent

theorem not_suffix_of_space (isPattern : IsTagPattern opening word view) {cs : List Char}
    (absent : ' ' ∉ cs) : ¬ opening <:+ cs := by
  intro isEnd
  exact absent ((isPattern.isSpan.isInfix.trans isEnd.isInfix).subset (by decide))

theorem infix_tag_append_iff (isPattern : IsTagPattern opening word view) {front : List Char}
    (absent : '>' ∉ front) (rest : List Char) :
    opening ++ '>' :: word <:+: front ++ '>' :: rest ↔
      (opening <:+ front ∧ word <+: rest) ∨ opening ++ '>' :: word <:+: rest := by
  rcases isPattern.exists_cons with ⟨later, same⟩
  exact infix_append_cons_iff_of_delimiter word (same ▸ List.cons_ne_nil _ _) isPattern.plain absent

/-- At a start tag the pattern begins, or it stands behind the tag. -/
theorem infix_openTag_append_iff (isPattern : IsTagPattern opening word view) {e : Element}
    (isPlain : e.toNode.IsPlain) (rest : List Char) :
    opening ++ '>' :: word <:+: openTag e.tag e.attrs.entries ++ '>' :: (e.contentText ++ rest) ↔
      (opening <:+ openTag e.tag e.attrs.entries ∧ view e) ∨
        opening ++ '>' :: word <:+: e.contentText ++ rest := by
  cases isPlain with
  | element names escaped below =>
      rw [isPattern.infix_tag_append_iff names.greater_not_mem_openTag]
      refine or_congr_left (and_congr_right fun opens => ?_)
      exact isPattern.follows e (.element names escaped below) opens rest

mutual

theorem infix_print_iff (isPattern : IsTagPattern opening word view) :
    ∀ {n : Node}, n.IsPlain → ∀ rest,
      (opening ++ '>' :: word <:+: (n.print false).toList ++ rest ↔
        (∃ e ∈ n.collect Element.showsContent (fun e => [e]),
          opening <:+ openTag e.tag e.attrs.entries ∧ view e) ∨
        opening ++ '>' :: word <:+: rest)
  | .element tag attrs children, isPlain, rest => by
      cases isPlain with
      | element names escaped below =>
          have itself : (Element.toNode ⟨tag, attrs, children⟩).IsPlain :=
            .element names escaped below
          cases shows : Element.showsContent ⟨tag, attrs, children⟩ with
          | false =>
              have notAtEnd : ¬ opening <:+ openTag tag attrs.entries := by
                intro opens
                have isSpan := suffix_tag_of_suffix_openTag isPattern.isSpan names opens
                have shown := (Element.of_suffix_span (e := ⟨tag, attrs, children⟩) isSpan).1
                rw [shows] at shown
                cases shown
              rw [Element.toList_print_of_not_showsContent shows, List.append_assoc,
                List.singleton_append, isPattern.infix_tag_append_iff names.greater_not_mem_openTag,
                Node.collect, shows]
              simp [notAtEnd]
          | true =>
              have inContent : opening ++ '>' :: word <:+:
                  Element.contentText ⟨tag, attrs, children⟩ ++ rest ↔
                    (∃ e ∈ Node.collectIn Element.showsContent (fun e => [e]) children,
                      opening <:+ openTag e.tag e.attrs.entries ∧ view e) ∨
                    opening ++ '>' :: word <:+: rest := by
                have noLess : '<' ∉ if needsLineFeed tag children then ['\n'] else [] := by
                  split <;> decide
                have endTag : '<' :: '/' :: (tag.toList ++ ['>']) ++ rest =
                    '<' :: '/' :: tag.toList ++ '>' :: rest := by simp
                have notAtEnd : ¬ opening <:+ '<' :: '/' :: tag.toList :=
                  isPattern.not_suffix_of_space (by simp [names.noSpace])
                rw [Element.contentText, List.append_assoc, isPattern.infix_append_iff noLess,
                  List.append_assoc, isPattern.infix_printAll_iff below, endTag,
                  isPattern.infix_tag_append_iff (by simp [names.noGreater])]
                simp [notAtEnd]
              rw [Element.toList_print_of_showsContent shows escaped, List.append_assoc,
                List.cons_append, isPattern.infix_openTag_append_iff itself, inContent,
                Node.collect, shows]
              simp [or_assoc]
  | .text s, _, rest => by
      have nothing : (Node.text s).collect Element.showsContent (fun e => [e]) = [] := rfl
      have printed : ((Node.text s).print false).toList = escapeTextList s.toList :=
        String.toList_ofList
      rw [printed, isPattern.infix_append_iff (less_not_mem_escapeTextList _), nothing]
      simp

theorem infix_printAll_iff (isPattern : IsTagPattern opening word view) :
    ∀ {nodes : List Node}, (∀ n ∈ nodes, n.IsPlain) → ∀ rest,
      (opening ++ '>' :: word <:+: (Node.printAll false nodes).toList ++ rest ↔
        (∃ e ∈ Node.collectIn Element.showsContent (fun e => [e]) nodes,
          opening <:+ openTag e.tag e.attrs.entries ∧ view e) ∨
        opening ++ '>' :: word <:+: rest)
  | [], _, rest => by
      have nothing : Node.collectIn Element.showsContent (fun e => [e]) [] = [] := rfl
      have empty : (Node.printAll false []).toList = [] := rfl
      rw [nothing, empty]
      simp
  | n :: nodes, isPlain, rest => by
      rw [List.forall_mem_cons] at isPlain
      rw [Node.printAll, String.toList_append, List.append_assoc,
        isPattern.infix_print_iff isPlain.1, isPattern.infix_printAll_iff isPlain.2, Node.collectIn,
        ← or_assoc]
      simp only [List.mem_append, or_and_right, exists_or]

end

end IsTagPattern

/-! ## Tokens -/

namespace Element

theorem contentText_append {e : Element} (isSpan : "span".toList <:+ e.tag.toList)
    (rest : List Char) :
    e.contentText ++ rest =
      (Node.printAll false e.children).toList ++ '<' :: '/' :: (e.tag.toList ++ '>' :: rest) := by
  rw [contentText, (of_suffix_span isSpan).2]
  simp

end Element

theorem isTagPattern_doctype :
    IsTagPattern "<span class=\"token doctype\"".toList ['<']
      (fun e => Node.beginsWithText e.children = false) where
  isSpan := by decide
  plain := by decide
  follows := by
    rintro e (@⟨_, _, _, names, -, below⟩) opens rest
    rw [e.contentText_append (suffix_tag_of_suffix_openTag (by decide) names opens)]
    exact (Node.prefix_printAll_append below names _).1

/-- Nothing looks like a punctuation token with the beginning of a tag. -/
theorem isTagPattern_punctuation {word : List Char}
    (beginsTwice : ['<', '<'] <+: word ∨ ['<', '/', '<'] <+: word) :
    IsTagPattern "<span class=\"token punctuation\"".toList word (fun _ => False) where
  isSpan := by decide
  plain := by decide
  follows := by
    rintro e (@⟨_, _, _, names, -, below⟩) opens rest
    rw [e.contentText_append (suffix_tag_of_suffix_openTag (by decide) names opens), iff_false]
    intro comes
    rcases Node.prefix_printAll_append below names ('>' :: rest) with ⟨-, noLess, noLessSlash⟩
    rcases beginsTwice with less | lessSlash
    · exact noLess (less.trans comes)
    · exact noLessSlash (lessSlash.trans comes)

end Markup

namespace Document

/-- The elements that the print of a page shows: all but those in an element without content. -/
def printedElements (d : Document) : List Element :=
  d.root.toNode.collect Element.showsContent (fun e => [e])

/-- A pattern of a tag stands in the print of a page if it stands at one of its elements. -/
theorem infix_print_iff {d : Document} (isPlain : d.root.toNode.IsPlain) {opening word : List Char}
    {view : Element → Prop} (isPattern : IsTagPattern opening word view) :
    opening ++ '>' :: word <:+: d.print.toList ↔
      ∃ e ∈ d.printedElements, opening <:+ openTag e.tag e.attrs.entries ∧ view e := by
  have whole := isPattern.infix_print_iff isPlain []
  rcases isPattern.exists_cons with ⟨later, same⟩
  rw [List.append_nil, List.infix_nil] at whole
  rw [print, Element.print, whole, printedElements, same]
  simp

theorem suffix_startText_iff {e : Element} {opening : List Char} :
    opening ++ ['>'] <:+ e.startText ↔ opening <:+ openTag e.tag e.attrs.entries := by
  rw [Element.startText, toList_printStart, List.suffix_concat_iff]
  simp

/-- Escaping tokens leaves a page alone exactly if no token stands in its print that is looked for.
On a page of elements and texts it does so exactly if every element that is printed with the start
tag of a document type token begins with text.  Otherwise the `<` of the next tag is escaped. -/
theorem escapeTokens_print_eq_self_iff (d : Document) :
    (escapeTokens d.print = d.print ↔ ¬ doctypeStart ++ ['<'] <:+: d.print.toList ∧
        ¬ punctuationStart ++ "<</span>".toList <:+: d.print.toList ∧
        ¬ punctuationStart ++ "</</span>".toList <:+: d.print.toList) ∧
      (d.root.toNode.IsPlain → (escapeTokens d.print = d.print ↔
        ∀ e ∈ d.printedElements, doctypeStart <:+ e.startText →
          Node.beginsWithText e.children = true)) := by
  refine ⟨escapeTokens_eq_self_iff d.print, fun isPlain => ?_⟩
  have doctype : doctypeStart = "<span class=\"token doctype\"".toList ++ ['>'] := by decide
  have punctuation : punctuationStart = "<span class=\"token punctuation\"".toList ++ ['>'] := by
    decide
  have noPunctuation {word : List Char}
      (beginsTwice : ['<', '<'] <+: word ∨ ['<', '/', '<'] <+: word) :
      ¬ punctuationStart ++ word <:+: d.print.toList := by
    rw [punctuation, List.append_assoc, List.singleton_append,
      infix_print_iff isPlain (isTagPattern_punctuation beginsTwice)]
    simp
  have noDoctype : ¬ doctypeStart ++ ['<'] <:+: d.print.toList ↔
      ∀ e ∈ d.printedElements, doctypeStart <:+ e.startText →
        Node.beginsWithText e.children = true := by
    rw [doctype, List.append_assoc, List.singleton_append,
      infix_print_iff isPlain isTagPattern_doctype]
    simp only [suffix_startText_iff, not_exists, not_and, Bool.not_eq_false]
  rw [escapeTokens_eq_self_iff, noDoctype, and_iff_left]
  exact ⟨noPunctuation (by decide), noPunctuation (by decide)⟩

/-- A page with one document type token, whose content is given. -/
def doctypePage (content : List Node) : Document where
  children := [.element "span" (Dict.ofList [("class", "token doctype")]) content]

theorem isPlain_doctypePage {content : List Node} (isPlain : ∀ n ∈ content, n.IsPlain) :
    (doctypePage content).root.toNode.IsPlain := by
  have span : (Node.element "span" (Dict.ofList [("class", "token doctype")]) content).IsPlain :=
    .element ⟨⟨'s', "pan".toList, by decide⟩, by decide, by decide, by decide⟩ (by decide) isPlain
  have article : HasReadNames "article" Dict.empty :=
    ⟨⟨'a', "rticle".toList, by decide⟩, by decide, by decide, by decide⟩
  have escaped : rawTextTags.contains "article" = false := by decide
  exact .element article escaped (List.forall_mem_singleton.mpr span)

/-- A token with text in it is left alone. -/
theorem escapeTokens_print_doctypePage :
    (doctypePage [.text "<!DOCTYPE html>"]).root.toNode.IsPlain ∧
      escapeTokens (doctypePage [.text "<!DOCTYPE html>"]).print =
        (doctypePage [.text "<!DOCTYPE html>"]).print := by
  have isPlain := isPlain_doctypePage (List.forall_mem_singleton.mpr (.text "<!DOCTYPE html>"))
  refine ⟨isPlain, ((escapeTokens_print_eq_self_iff _).2 isPlain).mpr ?_⟩
  decide +kernel

/-- Escaping tokens changes a page of elements and texts: a token with an element in it loses the
start tag of that. -/
theorem not_forall_escapeTokens_print :
    ¬ ∀ d : Document, d.root.toNode.IsPlain → escapeTokens d.print = d.print := by
  intro claimed
  have bold : (Node.element "b" Dict.empty [.text "html"]).IsPlain :=
    .element ⟨⟨'b', [], by decide⟩, by decide, by decide, by decide⟩ (by decide)
      (List.forall_mem_singleton.mpr (.text "html"))
  have same := claimed (doctypePage [.element "b" Dict.empty [.text "html"]])
    (isPlain_doctypePage (List.forall_mem_singleton.mpr bold))
  revert same
  decide +kernel

end Document

end Folio
