import Folio.Proofs.Page.AnchorAgreement
import Folio.Proofs.Page.RecordPlace

namespace Folio

open Markup

/-!
# What is read off a page beside its markup

Title, outline and search records are the same for a page and for one that mirrors it.  For the
records this is said path by path: a record is made from steady views of an element and of the
elements around it, and the paths that records are made for are aligned.

Permalinks and the publishing of links are therefore quiet passes: what is read off a page beside
its markup is the same before and after them, and so are the identifiers that it will be given.
-/

namespace Document

theorem isNone_element?_of_mirrors {n m : Node} (mirrors : n.Mirrors m) :
    m.element?.isNone = n.element?.isNone := by
  rcases none_or_some_of_rel mirrors.element? with
    ⟨first, second⟩ | ⟨_, _, first, second, -⟩
  · rw [first, second]
  · rw [first, second]
    rfl

theorem all_isNone_element?_of_mirrors {nodes nodes' : List Node}
    (mirrors : List.Forall₂ Node.Mirrors nodes nodes') :
    (nodes'.all fun n => n.element?.isNone) = nodes.all fun n => n.element?.isNone := by
  induction mirrors with
  | nil => rfl
  | cons here _ inductionHypothesis =>
      rw [List.all_cons, List.all_cons, inductionHypothesis, isNone_element?_of_mirrors here]

/-- In a caption nothing is put in front, so its elements keep their positions. -/
theorem leads_of_mirrors {c c' : Element} (mirrors : c.Mirrors c') {i j : Nat}
    (aligned : c.align c' [i] = [j]) : leads c' j = leads c i := by
  rw [leads, leads, mirrors.tag_eq]
  cases isCaption : c.tag == "figcaption" with
  | false => rfl
  | true =>
      have content := mirrors.mirrorsIn_caption isCaption
      have place : j = i := by
        rw [Element.align] at aligned
        rw [← (List.cons.inj aligned).1, content.length_eq, Nat.sub_self, Nat.add_zero]
      have child : (c'.child? i).isSome = (c.child? i).isSome := by
        rw [Element.child?, Element.child?]
        rcases none_or_some_of_rel (content.getElem? i) with
          ⟨atPlace, atPlace'⟩ | ⟨n, m, atPlace, atPlace', here⟩
        · rw [atPlace, atPlace']
        · have same := isNone_element?_of_mirrors here
          rw [← Option.not_isSome, ← Option.not_isSome, Bool.not_inj_iff] at same
          rw [atPlace, atPlace']
          exact same
      have before := List.forall₂_take i (Node.mirrorsIn_iff_forall₂.mp content)
      rw [place, child, all_isNone_element?_of_mirrors before]

end Document

namespace Document.Mirrors

variable {d d' : Document} (mirrors : d.Mirrors d')

include mirrors

theorem mirrorsIn_children : Node.MirrorsIn d.children d'.children :=
  Element.Mirrors.mirrorsIn_children mirrors rfl

theorem title?_eq : d'.title? = d.title? := by
  have isTitle : Overlooks (·.tag == "h1") := overlooks_tag (by decide)
  have first := Node.map_findIn?_of_mirrors isTitle
    (fun e e' here _ => steady_normalText e e' here) _ _ mirrors.mirrorsIn_children
  rw [title?, title?, first]

theorem outline_eq : d'.outline = d.outline :=
  OutlineEntry.ofNodes_of_mirrors _ _ mirrors.mirrorsIn_children

theorem isIndexed_align (path : TreePath) :
    d'.isIndexed (d.align d' path) = d.isIndexed path := by
  have choice (d : Document) (path : TreePath) : d.isIndexed path =
      ((((d.at? path).map indexingFlag?).toList ++
        ((d.ancestors path).map indexingFlag?).reverse).findSome? id).getD true := by
    rw [isIndexed, Option.toList_map, ← List.map_reverse, ← List.map_append, List.findSome?_map]
    rfl
  rw [choice, choice, mirrors.map_at? steady_indexingFlag?,
    mirrors.map_ancestors steady_indexingFlag?]

theorem parentsAt_align (path : TreePath) :
    d'.parentsAt (d.align d' path) = d.parentsAt path := by
  have labels (d : Document) (path : TreePath) :
      d.parentsAt path = ((d.ancestors path).map parentLabel?).filterMap id := by
    rw [parentsAt, List.filterMap_map]
    rfl
  rw [labels, labels, mirrors.map_ancestors steady_parentLabel?]

theorem captionAround_align (path : TreePath) :
    d'.captionAround (d.align d' path) = d.captionAround path := by
  have around := List.rel_reverse (Element.Mirrors.ancestors_align mirrors path)
  have nearest := steady_figureCaption.map_find?_eq (steady_tag.comp (· == "figure")) around
  rw [captionAround, captionAround, ancestors, ancestors, align, nearest]

theorem recordAt_align {rule : RecordRule} (text : Steady rule.text) (mark : Steady rule.mark)
    (path : TreePath) : rule.recordAt d' (d.align d' path) = rule.recordAt d path := by
  rw [RecordRule.recordAt, RecordRule.recordAt, mirrors.parentsAt_align]
  apply mirrors.map_at?
  intro e e' here
  have classes : e'.attr? "class" = e.attr? "class" := here.attr?_eq (by decide)
  simp only [text e e' here, mark e e' here, steady_id? e e' here, classes]

/-- A rule with steady texts and marks has the same records for both pages. -/
theorem records_eq {rule : RecordRule} (applies : Overlooks rule.applies)
    (text : Steady rule.text) (mark : Steady rule.mark) : rule.records d' = rule.records d := by
  have made : rule.recordAt d' ∘ d.align d' = rule.recordAt d :=
    funext (mirrors.recordAt_align text mark)
  have indexed : d'.isIndexed ∘ d.align d' = d.isIndexed := funext mirrors.isIndexed_align
  rw [RecordRule.records, RecordRule.records, mirrors.allPaths_eq applies, List.filter_map,
    List.filterMap_map, made, indexed]

theorem flatMap_records_eq :
    recordRules.flatMap (·.records d') = recordRules.flatMap (·.records d) := by
  apply List.flatMap_congr
  intro rule listed
  have constant (names : List String) : Steady fun _ => names := fun _ _ _ => rfl
  simp only [recordRules, List.mem_cons, List.not_mem_nil, or_false] at listed
  rcases listed with rfl | rfl | rfl | rfl
  · exact mirrors.records_eq ((overlooks_tag (by decide)).and overlooks_hasId.steady)
      steady_headingText (constant _)
  · exact mirrors.records_eq ((overlooks_tag (by decide)).and overlooks_hasId.steady)
      steady_normalText (constant _)
  · exact mirrors.records_eq ((overlooks_tag (by decide)).and overlooks_hasId.steady)
      steady_figureCaption (steady_figureClass.comp fun name => [name])
  · exact mirrors.records_eq overlooks_isCallout steady_calloutText (constant _)

theorem isCaptionLead_align (path : TreePath) :
    d'.isCaptionLead (d.align d' path) = d.isCaptionLead path := by
  rcases List.eq_nil_or_concat path with rfl | ⟨front, i, rfl⟩
  · rw [align, Element.align_nil]
    rfl
  · rcases Element.exists_align_concat d.root d'.root front i with ⟨j, aligned⟩
    rw [List.concat_eq_append, align, aligned, isCaptionLead_concat, isCaptionLead_concat]
    rcases none_or_some_of_rel (Element.Mirrors.at?_align mirrors front) with
      ⟨nothing, nothing'⟩ | ⟨c, c', atFront, atFront', same⟩
    · rw [at?, at?, nothing, nothing']
    · rw [at?, at?, atFront, atFront']
      have position : c.align c' [i] = [j] :=
        List.append_cancel_left ((Element.align_append atFront atFront' [i]).symm.trans aligned)
      exact leads_of_mirrors same position

theorem paragraphAt_align (path : TreePath) :
    d'.paragraphAt (d.align d' path) = d.paragraphAt path := by
  rw [paragraphAt, paragraphAt, mirrors.parentsAt_align, mirrors.captionAround_align]
  apply mirrors.map_at?
  intro e e' here
  have classes : e'.attr? "class" = e.attr? "class" := here.attr?_eq (by decide)
  simp only [steady_normalText e e' here, steady_id? e e' here, classes]

theorem paragraphRecords_eq : d'.paragraphRecords = d.paragraphRecords := by
  have made : d'.paragraphAt ∘ d.align d' = d.paragraphAt := funext mirrors.paragraphAt_align
  have chosen : (fun path => !d'.isCaptionLead path && d'.isIndexed path) ∘ d.align d' =
      fun path => !d.isCaptionLead path && d.isIndexed path := by
    funext path
    rw [Function.comp_apply, mirrors.isCaptionLead_align, mirrors.isIndexed_align]
  rw [paragraphRecords, paragraphRecords, mirrors.fullTextPaths_eq, List.filter_map,
    List.filterMap_map, made, chosen]

theorem articleRecord_eq : d'.articleRecord = d.articleRecord := by
  have classes : d'.root.attr? "class" = d.root.attr? "class" :=
    Element.Mirrors.attr?_eq mirrors (by decide)
  rw [articleRecord, articleRecord, steady_headingText _ _ mirrors, steady_id? _ _ mirrors, classes]

/-- A page and one that mirrors it have the same search records. -/
theorem searchRecords_eq : d'.searchRecords = d.searchRecords := by
  rw [searchRecords, searchRecords, steady_indexingFlag? _ _ mirrors, mirrors.articleRecord_eq,
    mirrors.flatMap_records_eq, mirrors.paragraphRecords_eq]

end Document.Mirrors

/-! ## Quiet passes -/

/-- The passes after which a page mirrors itself. -/
inductive QuietPass where
  | permalinks
  | links
  deriving DecidableEq

namespace QuietPass

def run : QuietPass → Document → Document
  | permalinks => Document.addPermalinks
  | links => Document.publishLinks

theorem mirrors (pass : QuietPass) (d : Document) : d.Mirrors (pass.run d) :=
  match pass with
  | permalinks => d.mirrors_addPermalinks
  | links => d.mirrors_publishLinks

/-- A quiet pass changes neither title nor outline nor search records.  Every element is found
again, in order, with its tag and its text; what is new are permalinks.  The identifiers that anchor
assignment gives out do not depend on the pass. -/
theorem sideOutputs_run (pass : QuietPass) (d : Document) :
    (pass.run d).title? = d.title? ∧
      (pass.run d).outline = d.outline ∧
      (pass.run d).searchRecords = d.searchRecords ∧
      (∀ first second : TreePath, first < second →
        d.align (pass.run d) first < d.align (pass.run d) second) ∧
      (∀ path, ((pass.run d).at? (d.align (pass.run d) path)).map
          (fun e => (e.tag, e.shownText)) = (d.at? path).map fun e => (e.tag, e.shownText)) ∧
      (∀ path' e', (pass.run d).at? path' = some e' →
        (∃ path, d.align (pass.run d) path = path') ∨ ∃ id, e' = permalink id) ∧
      ∀ path, ((pass.run d).assignAnchors.at? (d.align (pass.run d) path)).map Element.id? =
        (d.assignAnchors.at? path).map Element.id? := by
  have mirrors := pass.mirrors d
  have shown : Steady fun e => (e.tag, e.shownText) := fun e e' here =>
    Prod.ext (steady_tag e e' here) (steady_shownText e e' here)
  exact ⟨mirrors.title?_eq, mirrors.outline_eq, mirrors.searchRecords_eq,
    fun _ _ before => Element.align_lt_align _ _ before, mirrors.map_at? shown,
    fun _ _ atPath' => Element.Mirrors.exists_align_eq mirrors atPath',
    mirrors.map_id?_assignAnchors⟩

end QuietPass

end Folio
