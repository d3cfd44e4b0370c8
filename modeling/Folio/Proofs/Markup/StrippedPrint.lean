import Folio.Proofs.Markup.Printing

namespace Folio
namespace Markup

/-!
# The text of a print

A tree can be kept as a tree or as the markup that it is printed as.  Markup that is kept shows what
is left of it without its tags and with its references decoded, and this is the text of the tree.
The tags of a print are those that the printer has written: no text and no value has a `<` or a `>`
of its own, so a tag that is dropped ends where it was closed.  What stays is escaped text, and it
is decoded once, however much it looks like markup itself.

Where the printer does not escape or adds a character, the text of the print is another one.  So the
tree must have no element whose texts are printed as they are, no element that is printed without
what it holds, and none that begins with a line feed which has to be doubled.
-/

theorem dropTags_inside {cs : List Char} (plain : '>' ∉ cs) (rest : List Char) :
    dropTags true (cs ++ '>' :: rest) = dropTags false rest := by
  induction cs with
  | nil => rfl
  | cons c cs inductionHypothesis =>
      rw [List.mem_cons, not_or] at plain
      have goesOn : (c != '>') = true := bne_iff_ne.mpr (Ne.symm plain.1)
      rw [List.cons_append, dropTags, goesOn, inductionHypothesis plain.2]

theorem dropTags_tag {cs : List Char} (plain : '>' ∉ cs) (rest : List Char) :
    dropTags false ('<' :: (cs ++ '>' :: rest)) = dropTags false rest := by
  rw [dropTags, if_pos ⟨rfl, by simp⟩, dropTags_inside plain]

theorem dropTags_printStart {tag : String} {attrs : Dict String} (name : '>' ∉ tag.toList)
    (names : ∀ name ∈ attrs.keys, '>' ∉ name.toList) (rest : List Char) :
    dropTags false ((printStart tag attrs).toList ++ rest) = dropTags false rest := by
  have plain : '>' ∉ openTag tag attrs.entries :=
    greater_not_mem_openTag name fun a listed => names a.1 (List.mem_map_of_mem listed)
  rw [toList_printStart, openTag, List.append_assoc, List.cons_append, List.singleton_append,
    dropTags_tag (List.not_mem_of_not_mem_cons plain)]

theorem dropTags_endTag {tag : String} (name : '>' ∉ tag.toList) (rest : List Char) :
    dropTags false (("</" ++ tag ++ ">").toList ++ rest) = dropTags false rest := by
  have plain : '>' ∉ '/' :: tag.toList := by simp [name]
  rw [toList_endTag_append, dropTags_tag plain]

namespace Node

/-- Whether a tree consists of elements and texts, each of which is printed with all that it shows
and with nothing else.  A name may hold any character but the one that ends a tag. -/
inductive Strippable : Node → Prop where
  | element {tag : String} {attrs : Dict String} {children : List Node}
      (name : '>' ∉ tag.toList) (names : ∀ name ∈ attrs.keys, '>' ∉ name.toList)
      (escaped : rawTextTags.contains tag = false)
      (empty : voidTags.contains tag = true → children = [])
      (begins : lineFeedTags.contains tag = true →
        ∀ s, children.head? = some (.text s) → s.toList.head? ≠ some '\n')
      (below : ∀ child ∈ children, child.Strippable) : Strippable (.element tag attrs children)
  | text (s : String) : Strippable (.text s)

theorem needsLineFeed_eq_false {tag : String} {children : List Node}
    (begins : lineFeedTags.contains tag = true →
      ∀ s, children.head? = some (.text s) → s.toList.head? ≠ some '\n') :
    needsLineFeed tag children = false := by
  unfold needsLineFeed
  split
  · next s siblings =>
      rw [Bool.and_eq_false_imp, beq_eq_false_iff_ne]
      exact fun lineFeeds => begins lineFeeds s rfl
  · rfl

/-- What is left of siblings is what is left of each. -/
theorem dropTags_printAll_of {nodes : List Node}
    (each : ∀ n ∈ nodes, ∀ rest, dropTags false ((n.print false).toList ++ rest) =
      escapeTextList n.shownText.toList ++ dropTags false rest) (rest : List Char) :
    dropTags false ((printAll false nodes).toList ++ rest) =
      escapeTextList (shownTextOf nodes).toList ++ dropTags false rest := by
  induction nodes with
  | nil => rfl
  | cons n nodes inductionHypothesis =>
      have later := inductionHypothesis fun m member => each m (List.mem_cons_of_mem n member)
      rw [printAll, String.toList_append, List.append_assoc, each n List.mem_cons_self, later,
        shownTextOf, String.toList_append, escapeTextList, escapeTextList, escapeTextList,
        List.flatMap_append, List.append_assoc]

/-- Without its tags the print of a tree is the text of the tree, escaped. -/
theorem dropTags_print {n : Node} (strippable : n.Strippable) :
    ∀ rest, dropTags false ((n.print false).toList ++ rest) =
      escapeTextList n.shownText.toList ++ dropTags false rest := by
  induction strippable with
  | text s =>
      intro rest
      change dropTags false ((escapeText s).toList ++ rest) = _
      rw [escapeText, String.toList_ofList,
        dropTags_append_of_no_less (less_not_mem_escapeTextList _)]
      rfl
  | @element tag attrs children name names escaped empty begins below inductionHypothesis =>
      intro rest
      by_cases isVoid : voidTags.contains tag = true
      · rw [print_of_void false isVoid, dropTags_printStart name names, empty isVoid]
        rfl
      · have printed : ((element tag attrs children).print false).toList ++ rest =
            (printStart tag attrs).toList ++
              ((printAll false children).toList ++ (("</" ++ tag ++ ">").toList ++ rest)) := by
          rw [toList_print_of_shown false isVoid, needsLineFeed_eq_false begins, escaped]
          simp
        rw [printed, dropTags_printStart name names, dropTags_printAll_of inductionHypothesis,
          dropTags_endTag name]
        rfl

end Node

namespace Element

/-- The text that is taken out of the print of an element is the text of the element, so the print
shows the same when it is kept as raw markup in the element's place. -/
theorem stripTags_print {e : Element} (strippable : e.toNode.Strippable) :
    stripTags e.print = e.shownText ∧ (Node.raw e.print).shownText = e.toNode.shownText := by
  have left := Node.dropTags_print strippable []
  rw [List.append_nil, dropTags, List.append_nil] at left
  have stripped : stripTags e.print = e.shownText := by
    rw [stripTags, print, left, decodeStrict_escapeTextList, String.ofList_toList]
    rfl
  exact ⟨stripped, stripped⟩

/-- A code block that looks like markup in its text and in its value. -/
def markupSample : Element where
  tag := "pre"
  attrs := Dict.ofList [("title", "a > \"b\"")]
  children := [.text "&lt;b>\n", .element "br" Dict.empty [],
    .element "b" Dict.empty [.text "1 < 2 && 3 > 2"]]

theorem strippable_markupSample : markupSample.toNode.Strippable := by
  refine .element (by decide) (by decide) (by decide) (by decide) ?_ ?_
  · rintro - s begins
    cases begins
    decide
  · intro child member
    rcases List.mem_cons.mp member with rfl | member
    · exact .text _
    · rcases List.mem_cons.mp member with rfl | member
      · exact .element (by decide) (by decide) (by decide) (fun _ => rfl) (by simp) (by simp)
      · rw [List.mem_singleton.mp member]
        refine .element (by decide) (by decide) (by decide) (by decide)
          (fun lineFeeds => absurd lineFeeds (by decide)) ?_
        intro child member
        rw [List.mem_singleton.mp member]
        exact .text _

theorem stripTags_print_markupSample :
    markupSample.toNode.Strippable ∧
      stripTags markupSample.print = "&lt;b>\n1 < 2 && 3 > 2" :=
  ⟨strippable_markupSample, (stripTags_print strippable_markupSample).1⟩

end Element

end Markup
end Folio
