import Folio.Page.Renderer
import Folio.Proofs.Markup.Printing
import Folio.Proofs.Page.AnchorAssignment
import Folio.Proofs.Page.OutlineTrail
import Folio.Proofs.Page.Pass
import Folio.Proofs.Page.TokenEscape
import Folio.Proofs.Variable

namespace Folio

open Markup

/-!
# The identifiers of a published page

The outline and the search records of a page name identifiers of the finished tree, while the markup
has gone through printing, the escape of tokens and the substitution of variables.  Each of the
three keeps the place of an identifier recognizable: printing writes it into the start tag of its
element, the escape changes nothing but some `<`, and substitution changes texts between the
characters that markup is made of.  Two things may come in between.  A value may name a variable, in
which case its substitute is published; and an element inside one that is printed without content is
not published at all.
-/

/-- Whether markup shows the identifier of an element of a finished page: in the start tag of that
element, as it is printed and with bare `<` escaped, stands the identifier attribute with its value;
both are subject to substitution. -/
def Document.Shows (d : Document) (vars : Variables) (markup : String) (id : String) : Prop :=
  ∃ path e earlier later front back start before after,
    d.at? path = some e ∧ e.attrs.entries = earlier ++ ("id", id) :: later ∧
    d.print.toList = front ++ (openTag e.tag earlier ++ (attributeText "id" id ++ back)) ∧
    EscapesTo IsBareLess (attributeText "id" id ++ back) front (openTag e.tag earlier) start ∧
    markup.toList = before ++ (vars.written start ++
      (" id=\"".toList ++ (vars.written (escapeValueList id.toList) ++ '"' :: after)))

/-- An identifier attribute, and what is published for it. -/
theorem Variables.written_attributeText (vars : Variables) (id : String) (front back : List Char) :
    vars.written (front ++ (attributeText "id" id ++ back)) =
      vars.written front ++ (" id=\"".toList ++
        (vars.written (escapeValueList id.toList) ++ '"' :: vars.written back)) := by
  have isBreak : IsBreak ' ' ∧ IsBreak '"' := by
    refine ⟨⟨?_, ?_⟩, ⟨?_, ?_⟩⟩ <;> decide
  have whole : attributeText "id" id ++ back =
      ' ' :: ("id=\"".toList ++ (escapeValueList id.toList ++ '"' :: back)) := by
    simp [attributeText]
  rw [whole, vars.written_append isBreak.1, vars.written_append_of_no_percent (by decide),
    vars.written_append isBreak.2]
  rfl

/-- The beginning of a start tag is no part of a token, whether its `<` is bare or not. -/
theorem Variables.written_openTag (vars : Variables) {after before start : List Char}
    {tag : String} {attrs : List (String × String)}
    (escapes : EscapesTo IsBareLess after before (openTag tag attrs) start)
    (front back : List Char) :
    vars.written (front ++ (start ++ back)) =
      vars.written front ++ vars.written (start ++ back) := by
  cases escapes with
  | keep _ rest => exact vars.written_append_cons ⟨by decide, by decide⟩ front _
  | escape isBare rest => exact vars.written_append_cons ⟨by decide, by decide⟩ front _

/-- What is published of an element that is printed shows its identifier. -/
theorem Renderer.shows_of_at? (r : Renderer) {d : Document} {path : TreePath} {e : Element}
    {id : String} (atPath : d.at? path = some e) (own : e.id? = some id)
    (shown : ∀ a ∈ d.ancestors path, ¬ voidTags.contains a.tag = true) :
    d.Shows r.options.vars (r.serialize d).value id := by
  have listed : e.attrs.get? "id" = some id := (Element.id?_eq_some_iff.mp own).1
  rcases exists_openTag_of_get? e.tag listed with ⟨earlier, later, entries, rest, startTag⟩
  rcases Element.infix_print_of_at? false atPath shown with ⟨front, tail, printed⟩
  rw [startTag] at printed
  have cut : d.print.toList =
      front ++ (openTag e.tag earlier ++ (attributeText "id" id ++ (rest ++ tail))) := by
    rw [Document.print, Element.print, ← printed]
    simp only [List.append_assoc]
  -- The escape is followed piece by piece: the front, the start tag, the attribute, the rest.
  have escapes := escapesTo_escapeTokens d.print
  rw [cut] at escapes
  rcases escapes.of_append with ⟨out₁, _, escaped, -, escapes⟩
  rcases escapes.of_append with ⟨start, _, rfl, opened, escapes⟩
  rcases escapes.of_append with ⟨_, out₄, rfl, copied, -⟩
  have plain : '<' ∉ attributeText "id" id := less_not_mem_attributeText (by decide) id
  rw [copied.eq_of_no_less plain] at escaped
  refine ⟨path, e, earlier, later, front, rest ++ tail, start, r.options.vars.written out₁,
    r.options.vars.written out₄, atPath, entries, cut, ?_, ?_⟩
  · rwa [List.append_nil, List.nil_append] at opened
  · rw [serialize, Variables.value_substitute, String.toList_ofList, escaped,
      r.options.vars.written_openTag opened, r.options.vars.written_attributeText]

namespace Document

/-- An identifier in the outline is that of an element that is printed. -/
theorem exists_at?_of_mem_outline {d : Document} {anchor : String}
    (member : anchor ∈ OutlineEntry.anchorsIn d.outline) :
    ∃ path e, d.at? path = some e ∧ e.id? = some anchor ∧
      ∀ a ∈ d.ancestors path, ¬ voidTags.contains a.tag = true := by
  rw [← d.map_anchor_listedSections] at member
  rcases List.mem_map.mp member with ⟨s, listed, rfl⟩
  rcases exists_around_of_mem_listedSections listed with ⟨isListed, sections, around, inside⟩
  rcases exists_path_of_mem_listedSections listed with ⟨path, atPath, ancestors⟩
  refine ⟨path, s.element, atPath, ?_, ?_⟩
  · rcases Option.isSome_iff_exists.mp (Bool.and_eq_true_iff.mp isListed).2 with ⟨id, own⟩
    rw [OutlineEntry.ofElement, OutlineEntry.anchor, own]
    rfl
  · intro a isAround
    rw [ancestors, around] at isAround
    rcases List.mem_cons.mp isAround with rfl | nested
    · change ¬ voidTags.contains "article" = true
      decide
    · rw [beq_iff_eq.mp (Bool.and_eq_true_iff.mp (inside a nested)).1]
      decide

theorem id?_of_getD {e : Element} {id : String} (same : e.id?.getD "" = id) (given : id ≠ "") :
    e.id? = some id := by
  cases own : e.id? with
  | none => rw [own] at same; exact absurd same.symm given
  | some id' => rw [own] at same; exact congrArg some same

/-- The identifier in a search record is that of an element of the page. -/
theorem exists_at?_of_mem_searchRecords {d : Document} {record : SearchRecord}
    (member : record ∈ d.searchRecords) (given : record.id ≠ "") :
    ∃ path e, d.at? path = some e ∧ e.id? = some record.id := by
  rw [searchRecords] at member
  split at member
  · cases member
  · rcases List.mem_cons.mp member with rfl | member
    · exact ⟨[], d.root, rfl, id?_of_getD rfl given⟩
    · rcases List.mem_append.mp member with ofRule | paragraph
      · rcases List.mem_flatMap.mp ofRule with ⟨rule, -, listed⟩
        rcases List.mem_filterMap.mp listed with ⟨path, -, made⟩
        rcases Option.map_eq_some_iff.mp made with ⟨e, atPath, rfl⟩
        exact ⟨path, e, atPath, id?_of_getD rfl given⟩
      · rcases List.mem_filterMap.mp paragraph with ⟨path, -, made⟩
        rcases Option.map_eq_some_iff.mp made with ⟨e, atPath, rfl⟩
        exact ⟨path, e, atPath, id?_of_getD rfl given⟩

/-- Whether the elements with an identifier, of which there is one at least, all stand inside
elements that are printed without content. -/
def OnlyInVoid (d : Document) (id : String) : Prop :=
  (∃ path e, d.at? path = some e ∧ e.id? = some id) ∧
    ∀ path e, d.at? path = some e → e.id? = some id →
      ∃ a ∈ d.ancestors path, voidTags.contains a.tag = true

end Document

/-! ## The published page -/

namespace Renderer

variable (r : Renderer)

theorem shows_or_onlyInVoid {d : Document} {path : TreePath} {e : Element} {id : String}
    (atPath : d.at? path = some e) (own : e.id? = some id) :
    d.Shows r.options.vars (r.serialize d).value id ∨ d.OnlyInVoid id := by
  by_cases printed : ∃ path e, d.at? path = some e ∧ e.id? = some id ∧
      ∀ a ∈ d.ancestors path, ¬ voidTags.contains a.tag = true
  · rcases printed with ⟨path', e', atPath', own', shown⟩
    exact Or.inl (r.shows_of_at? atPath' own' shown)
  · refine Or.inr ⟨⟨path, e, atPath, own⟩, ?_⟩
    intro path' e' atPath' own'
    by_contra outside
    refine printed ⟨path', e', atPath', own', ?_⟩
    intro a inside isVoid
    exact outside ⟨a, inside, isVoid⟩

/-- Every identifier that the outline of a rendered page names is shown in its markup, and so is
every identifier of its search records, if not all elements that have it are left out of the print.
What is shown for an identifier that spells no known token is its escaped value. -/
theorem renderDocument_shows_ids {d : Document} {page : Noted RenderedPage}
    (rendered : r.renderDocument d = some page) :
    ∃ finished, r.transform d = some finished ∧
      (∀ anchor ∈ OutlineEntry.anchorsIn page.value.outline,
        finished.value.Shows r.options.vars page.value.markup anchor) ∧
      (∀ record ∈ page.value.records, record.id ≠ "" →
        finished.value.Shows r.options.vars page.value.markup record.id ∨
          finished.value.OnlyInVoid record.id) ∧
      ∀ id : String, ¬ r.options.vars.SpellsKnown id.toList →
        r.options.vars.written (escapeValueList id.toList) = escapeValueList id.toList := by
  rcases Option.map_eq_some_iff.mp rendered with ⟨finished, transformed, rfl⟩
  refine ⟨finished, transformed, ?_, ?_, ?_⟩
  · intro anchor member
    rcases Document.exists_at?_of_mem_outline member with ⟨path, e, atPath, own, shown⟩
    exact r.shows_of_at? atPath own shown
  · intro record member given
    rcases Document.exists_at?_of_mem_searchRecords member given with ⟨path, e, atPath, own⟩
    exact r.shows_or_onlyInVoid atPath own
  · intro id unknown
    exact r.options.vars.written_escapeValueList unknown

/-- A page with one empty section. -/
def emptySection (id : String) : Document where
  children := [.element "section" (Dict.ofList [("id", id)]) []]

/-- The bare renderer with one variable. -/
def withVariable : Renderer :=
  { bare with options := { vars := ⟨Dict.ofList [("V", "x")], by decide⟩ } }

/-- The identifier of that section is in the outline, and it is shown. -/
theorem renderDocument_shows_emptySection :
    ∃ page finished, bare.renderDocument (emptySection "x") = some page ∧
      bare.transform (emptySection "x") = some finished ∧
      OutlineEntry.anchorsIn page.value.outline = ["x"] ∧
      finished.value.Shows bare.options.vars page.value.markup "x" := by
  have rendered : bare.renderDocument (emptySection "x") =
      some (bare.runPasses (emptySection "x") >>= bare.finish) := rfl
  have listed : OutlineEntry.anchorsIn
      (bare.runPasses (emptySection "x") >>= bare.finish).value.outline = ["x"] := by
    decide +kernel
  rcases bare.renderDocument_shows_ids rendered with ⟨finished, transformed, shown, -, -⟩
  exact ⟨_, finished, rendered, transformed, listed, shown "x" (by rw [listed]; simp)⟩

/-- Not every identifier in an outline stands in the markup with its own value: if it spells a known
token, the value of the variable is published. -/
theorem not_forall_occursIn_markup :
    ¬ ∀ (r : Renderer) (d : Document) (page : Noted RenderedPage),
      r.renderDocument d = some page → ∀ anchor ∈ OutlineEntry.anchorsIn page.value.outline,
        Text.occursIn (attributeText "id" anchor) page.value.markup.toList = true := by
  intro claimed
  have occurs := claimed withVariable (emptySection "%V%") _ rfl "%V%" (by decide +kernel)
  revert occurs
  decide +kernel

end Renderer

end Folio
