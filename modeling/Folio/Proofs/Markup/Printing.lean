import Folio.Markup.Printer
import Folio.Proofs.Markup.Place
import Folio.Proofs.Markup.Unescape
import Mathlib.Data.List.Basic

namespace Folio
namespace Markup

/-!
# Printed start tags

The print of an element stands in the print of every element around it, unless one of these has a
tag that is printed without content.  So the start tag of an element can be found in the print of a
page, and in the start tag each attribute: its value is escaped, and neither quotes nor `<` are left
in it.
-/

/-- An attribute as it is printed. -/
def attributeText (name value : String) : List Char :=
  ' ' :: (name.toList ++ ('=' :: '"' :: (escapeValueList value.toList ++ ['"'])))

/-- A start tag up to the end of its last attribute. -/
def openTag (tag : String) (attrs : List (String × String)) : List Char :=
  '<' :: (tag.toList ++ attrs.flatMap fun a => attributeText a.1 a.2)

theorem toList_printAttrs (attrs : Dict String) :
    (printAttrs attrs).toList = attrs.entries.flatMap fun a => attributeText a.1 a.2 := by
  rw [printAttrs, String.toList_join, List.flatMap_map]
  apply List.flatMap_congr
  intro a _
  simp [attributeText, escapeValue]

theorem toList_printStart (tag : String) (attrs : Dict String) :
    (printStart tag attrs).toList = openTag tag attrs.entries ++ ['>'] := by
  rw [printStart, String.toList_append, String.toList_append, String.toList_append,
    toList_printAttrs, openTag]
  rfl

/-- An end tag is what stands between two angle brackets, as a start tag is. -/
theorem toList_endTag_append (tag : String) (rest : List Char) :
    ("</" ++ tag ++ ">").toList ++ rest = '<' :: ('/' :: tag.toList ++ '>' :: rest) := by
  simp

theorem less_not_mem_attributeText {name : String} (plain : '<' ∉ name.toList) (value : String) :
    '<' ∉ attributeText name value := by
  simp [attributeText, plain, less_not_mem_escapeValueList]

/-- Where no name has a `>` in it, a start tag has one at its end only. -/
theorem greater_not_mem_openTag {tag : String} {attrs : List (String × String)}
    (name : '>' ∉ tag.toList) (names : ∀ a ∈ attrs, '>' ∉ a.1.toList) :
    '>' ∉ openTag tag attrs := by
  have inAttributes : '>' ∉ attrs.flatMap fun a => attributeText a.1 a.2 := by
    intro member
    rcases List.mem_flatMap.mp member with ⟨a, listed, member⟩
    simp [attributeText, names a listed, greater_not_mem_escapeValueList] at member
  simp [openTag, name, inAttributes]

/-- An attribute of an element stands in its start tag. -/
theorem exists_openTag_of_get? (tag : String) {name value : String} {attrs : Dict String}
    (has : attrs.get? name = some value) :
    ∃ earlier later, attrs.entries = earlier ++ (name, value) :: later ∧
      ∃ rest, (printStart tag attrs).toList =
        openTag tag earlier ++ (attributeText name value ++ rest) := by
  rcases List.lookup_eq_some_iff.mp has with ⟨earlier, later, split, -⟩
  refine ⟨earlier, later, split, (later.flatMap fun a => attributeText a.1 a.2) ++ ['>'], ?_⟩
  rw [toList_printStart, split, openTag, openTag, List.flatMap_append, List.flatMap_cons]
  simp

namespace Node

theorem infix_printAll {n : Node} {nodes : List Node} (rawText : Bool) (member : n ∈ nodes) :
    (n.print rawText).toList <:+: (printAll rawText nodes).toList := by
  induction nodes with
  | nil => cases member
  | cons m nodes inductionHypothesis =>
      rw [printAll, String.toList_append]
      rcases List.mem_cons.mp member with rfl | later
      · exact (List.prefix_append _ _).isInfix
      · exact (inductionHypothesis later).trans (List.suffix_append _ _).isInfix

/-- An element without content is printed as its start tag. -/
theorem print_of_void (rawText : Bool) {tag : String} (isVoid : voidTags.contains tag = true)
    (attrs : Dict String) (children : List Node) :
    (element tag attrs children).print rawText = printStart tag attrs := by
  rw [print, if_pos isVoid]

/-- An element that may hold something is printed as its start tag, what it holds, and an end tag;
a line feed may come in between. -/
theorem toList_print_of_shown (rawText : Bool) {tag : String}
    (shown : ¬ voidTags.contains tag = true) (attrs : Dict String) (children : List Node) :
    ((element tag attrs children).print rawText).toList =
      (printStart tag attrs).toList ++
        ((if needsLineFeed tag children then "\n" else "").toList ++
          ((printAll (rawTextTags.contains tag) children).toList ++
            ("</" ++ tag ++ ">").toList)) := by
  rw [print, if_neg shown]
  simp only [String.toList_append, List.append_assoc]

theorem prefix_print (rawText : Bool) (tag : String) (attrs : Dict String)
    (children : List Node) :
    (printStart tag attrs).toList <+: ((element tag attrs children).print rawText).toList := by
  by_cases isVoid : voidTags.contains tag = true
  · have whole := print_of_void rawText isVoid attrs children
    exact whole ▸ List.prefix_rfl
  · rw [toList_print_of_shown rawText isVoid]
    exact List.prefix_append _ _

theorem infix_print (rawText : Bool) {tag : String} (shown : ¬ voidTags.contains tag = true)
    (attrs : Dict String) (children : List Node) :
    (printAll (rawTextTags.contains tag) children).toList <:+:
      ((element tag attrs children).print rawText).toList := by
  rw [toList_print_of_shown rawText shown, ← List.append_assoc]
  exact List.infix_append' _ _ _

end Node

/-- An element is printed in the same way wherever it stands. -/
theorem Element.print_toNode (e : Element) (rawText : Bool) : e.toNode.print rawText = e.print := by
  rw [Element.print, Element.toNode, Node.print, Node.print]

/-- The print of an element stands in the print of every element around it, if none between them is
printed without content. -/
theorem Element.print_infix_print_of_at? {path : TreePath} {c : Element} :
    ∀ {e : Element}, e.at? path = some c →
      (∀ a ∈ e.ancestors path, ¬ voidTags.contains a.tag = true) →
        c.print.toList <:+: e.print.toList := by
  induction path with
  | nil =>
      intro e atPath _
      have same : e = c := Option.some.inj atPath
      exact same ▸ List.infix_rfl
  | cons i path inductionHypothesis =>
      intro e atPath shown
      rw [at?_cons] at atPath
      rcases Option.bind_eq_some_iff.mp atPath with ⟨b, atChild, atPath⟩
      rw [ancestors, atChild] at shown
      have around := inductionHypothesis atPath
        fun a member => shown a (List.mem_cons_of_mem e member)
      have among : b.toNode ∈ e.children :=
        List.mem_of_getElem? (child?_eq_some_iff.mp atChild)
      have below := Node.infix_printAll (rawTextTags.contains e.tag) among
      rw [b.print_toNode] at below
      exact (around.trans below).trans
        (Node.infix_print false (shown e List.mem_cons_self) e.attrs e.children)

/-- So does its start tag. -/
theorem Element.infix_print_of_at? {path : TreePath} {c e : Element} (rawText : Bool)
    (atPath : e.at? path = some c)
    (shown : ∀ a ∈ e.ancestors path, ¬ voidTags.contains a.tag = true) :
    (printStart c.tag c.attrs).toList <:+: (e.toNode.print rawText).toList := by
  rw [e.print_toNode]
  exact (Node.prefix_print false c.tag c.attrs c.children).isInfix.trans
    (print_infix_print_of_at? atPath shown)

end Markup
end Folio
