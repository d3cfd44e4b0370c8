import Folio.Proofs.Page.AnchorAssignment
import Folio.Proofs.Page.Pass

namespace Folio

open Markup

/-!
# Where permalinks lead

Permalinks are written before anchors are assigned.  In the page between the two passes every
heading below the first level that stands directly in a section with an identifier begins with a
link to that identifier, and the passes between them keep it so, since they replace code blocks only
and put no headings in.  The assignment of anchors then leaves links alone.  It gives identifiers to
targets only, and of all sections those that are callouts are targets.  So a permalink leads to its
section if that is no callout, and else if the section had its identifier when the link was written.
-/

/-- Whether an element is a heading that permalinks are for: one below the first level. -/
def isLinkedHeading (e : Element) : Bool := e.isHeading && e.tag != "h1"

theorem permalinksOf_some (id : String) (e : Element) :
    permalinksOf (some id) e = if isLinkedHeading e then [(permalink id).toNode] else [] := rfl

/-- Whether the headings in a tree begin with the permalinks that they are to have; `sectionId`
comes from the element around it. -/
inductive Markup.Node.Linked : Option String → Node → Prop where
  | element {sectionId : Option String} {tag : String} {attrs : Dict String} {children : List Node}
      (first : ∀ id, sectionId = some id → isLinkedHeading ⟨tag, attrs, children⟩ = true →
        children.head? = some (permalink id).toNode)
      (below : ∀ child ∈ children, Linked (sectionId? ⟨tag, attrs, children⟩) child) :
      Linked sectionId (.element tag attrs children)
  | code {sectionId : Option String} {attrs : Dict String} {children : List Node} :
      Linked sectionId (.element "pre" attrs children)
  | text {sectionId : Option String} (s : String) : Linked sectionId (.text s)
  | comment {sectionId : Option String} (s : String) : Linked sectionId (.comment s)
  | raw {sectionId : Option String} (markup : String) : Linked sectionId (.raw markup)

namespace Markup.Node

theorem linked_of_singleton {sectionId : Option String} {tag : String} {attrs : Dict String}
    {child : Node} (noHeading : isLinkedHeading ⟨tag, attrs, [child]⟩ = false)
    (below : Linked (sectionId? ⟨tag, attrs, [child]⟩) child) :
    Linked sectionId (.element tag attrs [child]) := by
  refine Linked.element ?_ ?_
  · intro _ _ heading
    rw [noHeading] at heading
    cases heading
  · intro c member
    rw [List.mem_singleton.mp member]
    exact below

theorem linked_permalink (sectionId : Option String) (id : String) :
    Linked sectionId (permalink id).toNode :=
  linked_of_singleton rfl (Linked.raw _)

theorem linked_codeContainer (sectionId : Option String) (block : Element)
    (language markup : String) : Linked sectionId (codeContainer block language markup).toNode :=
  linked_of_singleton rfl Linked.code

/-- What the passes for code put in the place of a block holds no headings. -/
theorem linked_of_codeBlock {block : Element} (code : block.isCodeBlock)
    (sectionId : Option String) {m : Node}
    (put : m = block.toNode ∨
      ∃ language markup, m = (codeContainer block language markup).toNode) :
    Linked sectionId m := by
  rcases put with rfl | ⟨language, markup, rfl⟩
  · rcases block with ⟨tag, attrs, children⟩
    have isPre : tag = "pre" := beq_iff_eq.mp code
    rw [isPre]
    exact Linked.code
  · exact linked_codeContainer sectionId block language markup

/-- The pass that writes permalinks puts them in place. -/
theorem linked_addPermalinks (n : Node) :
    ∀ sectionId, Linked sectionId (n.addPermalinks sectionId) := by
  induction n with
  | element tag attrs children inductionHypothesis =>
      intro sectionId
      rw [addPermalinks]
      by_cases code : tag = "pre"
      · rw [if_pos code, code]
        exact Linked.code
      · rw [if_neg code]
        refine Linked.element ?_ ?_
        · rintro id rfl heading
          have puts : permalinksOf (some id) ⟨tag, attrs, children⟩ = [(permalink id).toNode] := by
            rw [permalinksOf_some]
            exact if_pos heading
          rw [puts]
          rfl
        · intro child member
          rcases List.mem_append.mp member with put | old
          · cases sectionId with
            | none => cases put
            | some id =>
                rw [permalinksOf_some] at put
                split at put
                · rw [List.mem_singleton.mp put]
                  exact linked_permalink _ id
                · cases put
          · rw [addPermalinksIn_eq_map] at old
            rcases List.mem_map.mp old with ⟨m, source, rfl⟩
            exact inductionHypothesis m source _
  | text s => exact fun _ => Linked.text s
  | comment s => exact fun _ => Linked.comment s
  | raw markup => exact fun _ => Linked.raw markup

/-- Replacing code blocks keeps permalinks in place, if they are in place in what is put in. -/
theorem Linked.substitute {p : Element → Bool} {f : Element → List Node}
    (codeOnly : ∀ e, p e = true → e.isCodeBlock)
    (puts : ∀ e, p e = true → ∀ sectionId, ∀ m ∈ f e, Linked sectionId m) {n : Node} :
    ∀ {sectionId}, Linked sectionId n → ∀ m ∈ n.substitute p f, Linked sectionId m := by
  induction n with
  | element tag attrs children inductionHypothesis =>
      intro sectionId linked m member
      by_cases passes : p ⟨tag, attrs, children⟩ = true
      · rw [substitute_of_passes passes] at member
        exact puts _ passes sectionId m member
      · by_cases code : tag = "pre"
        · rw [substitute_of_code passes code, List.mem_singleton] at member
          rw [member]
          exact linked
        · rw [substitute_of_proper passes code, List.mem_singleton] at member
          rw [member]
          cases linked with
          | code => exact absurd rfl code
          | element first below =>
              refine Linked.element ?_ ?_
              · intro id inSection heading
                have begins := first id inSection heading
                cases children with
                | nil => cases begins
                | cons child children =>
                    have same : child = (permalink id).toNode := Option.some.inj begins
                    rw [same, substituteIn, substitute_permalink f codeOnly]
                    rfl
              · intro child member
                rw [substituteIn_eq_flatMap] at member
                rcases List.mem_flatMap.mp member with ⟨old, source, member⟩
                exact inductionHypothesis old source (below old source) child member
  | text s =>
      intro sectionId linked m member
      exact List.mem_singleton.mp member ▸ linked
  | comment s =>
      intro sectionId linked m member
      exact List.mem_singleton.mp member ▸ linked
  | raw markup =>
      intro sectionId linked m member
      exact List.mem_singleton.mp member ▸ linked

theorem linked_substituteIn {p : Element → Bool} {f : Element → List Node}
    (codeOnly : ∀ e, p e = true → e.isCodeBlock)
    (puts : ∀ e, p e = true → ∀ sectionId, ∀ m ∈ f e, Linked sectionId m)
    {sectionId : Option String} {nodes : List Node}
    (linked : ∀ n ∈ nodes, Linked sectionId n) :
    ∀ m ∈ substituteIn p f nodes, Linked sectionId m := by
  intro m member
  rw [substituteIn_eq_flatMap] at member
  rcases List.mem_flatMap.mp member with ⟨n, source, member⟩
  exact (linked n source).substitute codeOnly puts m member

end Markup.Node

namespace Markup.Element

/-- Whether the headings below an element begin with the permalinks that they are to have. -/
def LinkedBelow (e : Element) : Prop := ∀ child ∈ e.children, Node.Linked (sectionId? e) child

theorem LinkedBelow.child {e c : Element} {i : Nat} (linked : e.LinkedBelow)
    (atChild : e.child? i = some c) : Node.Linked (sectionId? e) c.toNode :=
  linked c.toNode (List.mem_of_getElem? (child?_eq_some_iff.mp atChild))

theorem LinkedBelow.of_linked {sectionId : Option String} {c : Element}
    (linked : Node.Linked sectionId c.toNode) (proper : c.isCodeBlock = false) :
    c.LinkedBelow := by
  rcases c with ⟨tag, attrs, children⟩
  cases linked with
  | element first below => exact below
  | code => cases proper

/-- What holds below an element holds below everything that a walk outside code comes to. -/
theorem LinkedBelow.at? {path : TreePath} {j : Nat} :
    ∀ {e s : Element}, e.LinkedBelow → e.at? path = some s →
      e.Reaches (fun c => !c.isCodeBlock) (path ++ [j]) → s.LinkedBelow := by
  induction path with
  | nil =>
      intro e s linked atPath _
      exact Option.some.inj atPath ▸ linked
  | cons i path inductionHypothesis =>
      intro e s linked atPath reaches
      rw [at?_cons] at atPath
      rcases Option.bind_eq_some_iff.mp atPath with ⟨c, atChild, atPath⟩
      rcases (reaches_cons_iff atChild).mp reaches with impossible | ⟨entered, reaches⟩
      · exact absurd impossible (by simp)
      · have proper : c.isCodeBlock = false := by simpa using entered
        exact inductionHypothesis (.of_linked (linked.child atChild) proper) atPath reaches

/-- A heading in a section with an identifier begins with the permalink to it. -/
theorem LinkedBelow.first_child {s h : Element} {j : Nat} {id : String} (linked : s.LinkedBelow)
    (isSection : s.tag = "section") (own : s.id? = some id) (atChild : s.child? j = some h)
    (heading : isLinkedHeading h = true) : h.child? 0 = some (permalink id) := by
  have inSection : sectionId? s = some id := by rw [sectionId?, if_pos isSection, own]
  have linkedChild := linked.child atChild
  rw [inSection] at linkedChild
  rcases h with ⟨tag, attrs, children⟩
  cases linkedChild with
  | element first below =>
      have begins := first id rfl heading
      rw [child?_eq_some_iff]
      cases children with
      | nil => cases begins
      | cons child children => exact begins
  | code => cases heading

end Markup.Element

namespace Renderer

variable (r : Renderer)

/-- In the page before its anchors permalinks are in place. -/
theorem linkedBelow_unanchored (d : Document) : (r.unanchored d).value.root.LinkedBelow := by
  rw [value_unanchored, beforeEmbeds_eq]
  refine Node.linked_substituteIn isCodeBlock_of_isNamedCode ?_
    (Node.linked_substituteIn isCodeBlock_of_isPlaceholder ?_ ?_)
  · intro block named sectionId m member
    exact Node.linked_of_codeBlock (isCodeBlock_of_isNamedCode block named) sectionId
      (r.mem_value_highlightBlock member)
  · intro placeholder passes sectionId m member
    exact Node.linked_of_codeBlock (isCodeBlock_of_isPlaceholder placeholder passes) sectionId
      (r.mem_value_embed member)
  · intro n member
    rw [Node.addPermalinksIn_eq_map] at member
    rcases List.mem_map.mp member with ⟨source, -, rfl⟩
    exact Node.linked_addPermalinks source none

end Renderer

namespace Document

/-! ## Links to sections -/

/-- Whether a permalink to an identifier stands at a path. -/
def PermalinkAt (d : Document) (path : TreePath) (id : String) : Prop :=
  ∃ link, d.at? path = some link ∧ link.tag = "a" ∧ link.hasClass "anchor" = true ∧
    link.attr? "href" = some ("#" ++ id)

/-- Whether child `j` of the element at a path is a heading that is to link to the identifier of
that element: the element is a section, and the heading stands outside code. -/
structure SectionHeading (d : Document) (path : TreePath) (j : Nat) (id : String) : Prop where
  inSection : ∃ s, d.at? path = some s ∧ s.tag = "section" ∧ s.id? = some id
  isHeading : ∃ h, d.at? (path ++ [j]) = some h ∧ isLinkedHeading h = true
  outside : d.OutsideCode (path ++ [j])

theorem SectionHeading.of_listed {d : Document} {path : TreePath} {j : Nat} {id : String}
    (atSection : (d.at? path).map (fun s => (s.tag, s.id?)) = some ("section", some id))
    (listed : path ++ [j] ∈ d.pathsOutsideCode isLinkedHeading) : d.SectionHeading path j id := by
  rcases mem_pathsOutsideCode_iff.mp listed with ⟨-, found, outside⟩
  rcases Option.map_eq_some_iff.mp atSection with ⟨s, atPath, same⟩
  exact ⟨⟨s, atPath, congrArg Prod.fst same, congrArg Prod.snd same⟩, found, outside⟩

/-- Assigning anchors leaves links alone. -/
theorem permalinkAt_assignAnchors_iff (d : Document) (path : TreePath) (id : String) :
    d.assignAnchors.PermalinkAt path id ↔ d.PermalinkAt path id := by
  constructor
  · rintro ⟨link', atPath', isLink, anchor, href⟩
    rcases exists_at?_of_assignAnchors atPath' with ⟨link, atPath, sameTag, sameAttrs, -⟩
    refine ⟨link, atPath, sameTag ▸ isLink, ?_, ?_⟩
    · rw [Element.hasClass, ← sameAttrs "class" (by decide)]
      exact anchor
    · rw [← sameAttrs "href" (by decide)]
      exact href
  · rintro ⟨link, atPath, isLink, anchor, href⟩
    rcases exists_at?_assignAnchors atPath with ⟨link', atPath', sameTag, sameAttrs, -⟩
    refine ⟨link', atPath', sameTag.trans isLink, ?_, ?_⟩
    · rw [Element.hasClass, sameAttrs "class" (by decide)]
      exact anchor
    · rw [sameAttrs "href" (by decide)]
      exact href

/-- A heading of a section in the finished page was one before, if the section had an identifier
then. -/
theorem SectionHeading.of_assignAnchors {d : Document} {path : TreePath} {j : Nat}
    {id old : String} (heading : d.assignAnchors.SectionHeading path j id)
    (own : d.idAt? path = some old) : d.SectionHeading path j old := by
  rcases heading with ⟨⟨s', atSection', isSection, -⟩, ⟨h', atHeading', linked⟩, outside⟩
  rcases exists_at?_of_assignAnchors atSection' with ⟨s, atSection, sectionTag, -⟩
  rcases exists_at?_of_assignAnchors atHeading' with ⟨h, atHeading, headingTag, -⟩
  have ownId : s.id? = some old := by
    rw [idAt?, atSection] at own
    exact own
  refine ⟨⟨s, atSection, sectionTag ▸ isSection, ownId⟩, ⟨h, atHeading, ?_⟩,
    (d.outsideCode_assignAnchors_iff _).mp outside⟩
  rw [isLinkedHeading, Element.isHeading, ← headingTag]
  exact linked

/-- With permalinks in place, a heading of a section begins with the link to it. -/
theorem SectionHeading.at?_first {d : Document} (linked : d.root.LinkedBelow) {path : TreePath}
    {j : Nat} {id : String} (heading : d.SectionHeading path j id) :
    d.at? (path ++ [j, 0]) = some (permalink id) := by
  rcases heading with ⟨⟨s, atSection, isSection, own⟩, ⟨h, atHeading, isLinked⟩, outside⟩
  have atChild : s.child? j = some h := by
    have split := Element.at?_append path [j] d.root
    rw [at?, split] at atHeading
    rw [at?] at atSection
    rw [atSection] at atHeading
    simpa [Element.at?] using atHeading
  have below := linked.at? atSection outside
  have begins := below.first_child isSection own atChild isLinked
  rw [at?, Element.at?_append]
  rw [at?] at atSection
  rw [atSection]
  simp [Element.at?, atChild, begins]

theorem SectionHeading.permalinkAt {d : Document} (linked : d.root.LinkedBelow) {path : TreePath}
    {j : Nat} {id : String} (heading : d.SectionHeading path j id) :
    d.PermalinkAt (path ++ [j, 0]) id := by
  refine ⟨permalink id, heading.at?_first linked, rfl, ?_, rfl⟩
  change ((some "anchor").map Text.words).any (·.contains "anchor") = true
  decide +kernel

/-- A section that is no callout is no target, so it keeps the identifier that it has. -/
theorem idAt?_of_section {d : Document} {path : TreePath} {s : Element}
    (atSection : d.assignAnchors.at? path = some s) (isSection : s.tag = "section")
    (noCallout : s.isCallout = false) : d.idAt? path = s.id? := by
  rcases exists_at?_of_assignAnchors atSection with ⟨old, atOld, sameTag, sameAttrs, kept⟩
  have sameCallout : old.isCallout = false := by
    rw [Element.isCallout, Element.hasClass, Element.hasClass, ← sameAttrs "class" (by decide)]
    exact noCallout
  have other : ¬ d.IsAnchorTarget path := by
    rintro (⟨-, ⟨e, atPath, structural⟩, -⟩ | fragment)
    · rw [← Option.some.inj (atOld.symm.trans atPath), isStructural, sameCallout,
        Element.isHeading, ← sameTag, isSection] at structural
      cases structural
    · rcases place_of_mem_fullTextPaths fragment with ⟨-, ⟨e, atPath, tags⟩, -⟩
      rw [← Option.some.inj (atOld.symm.trans atPath), ← sameTag, isSection] at tags
      rcases tags with tag | tag
      · exact absurd tag (by decide)
      · exact absurd tag (by decide)
  rw [idAt?, atOld]
  change old.id? = s.id?
  rw [Element.id?, Element.id?, Element.attr?, Element.attr?, kept other]

end Document

namespace Renderer

variable (r : Renderer)

/-- In a finished page the heading of a section begins with a permalink to that section, if the
section is no callout or has the identifier that it had when permalinks were written. -/
theorem permalinkAt_transform (plain : r.hooks = []) {d : Document} {page : Noted Document}
    (transformed : r.transform d = some page) {path : TreePath} {j : Nat} {id : String}
    (heading : page.value.SectionHeading path j id)
    (kept : (∃ s, page.value.at? path = some s ∧ s.isCallout = false) ∨
      (r.unanchored d).value.idAt? path = some id) :
    page.value.PermalinkAt (path ++ [j, 0]) id := by
  rw [r.transform_of_no_hooks plain] at transformed
  have finished : page.value = (r.unanchored d).value.assignAnchors := by
    rw [← Option.some.inj transformed, value_runPasses]
  rw [finished] at heading kept ⊢
  -- Either way the section had this identifier before anchors were assigned.
  have own : (r.unanchored d).value.idAt? path = some id := by
    rcases kept with ⟨s, atSection, noCallout⟩ | own
    · rcases heading.inSection with ⟨s', atSection', isSection, own⟩
      have equal : s' = s := Option.some.inj (atSection'.symm.trans atSection)
      subst equal
      rw [Document.idAt?_of_section atSection isSection noCallout, own]
    · exact own
  rw [Document.permalinkAt_assignAnchors_iff]
  exact (heading.of_assignAnchors own).permalinkAt (r.linkedBelow_unanchored d)

/-- A page with one section and a heading in it. -/
def sectionPage (sectionAttrs : List (String × String)) : Document where
  children :=
    [.element "section" (Dict.ofList sectionAttrs)
      [.element "h2" (Dict.ofList [("id", "h")]) [.text "T"]]]

/-- In a section that is no callout the permalink leads to the section. -/
theorem permalinkAt_transform_sectionPage :
    ∃ page, bare.transform (sectionPage [("id", "x")]) = some page ∧
      page.value.SectionHeading [0] 0 "x" ∧ page.value.PermalinkAt [0, 0, 0] "x" := by
  have transformed := bare.transform_of_no_hooks rfl (sectionPage [("id", "x")])
  have heading : (bare.runPasses (sectionPage [("id", "x")])).value.SectionHeading [0] 0 "x" :=
    .of_listed (by decide +kernel) (by decide +kernel)
  have own : (bare.unanchored (sectionPage [("id", "x")])).value.idAt? [0] = some "x" := by
    decide +kernel
  exact ⟨_, transformed, heading,
    bare.permalinkAt_transform rfl transformed heading (Or.inr own)⟩

/-- Not every heading of a section with an identifier begins with a permalink: a callout that its
author gave no identifier gets one after permalinks have been written. -/
theorem not_forall_permalinkAt :
    ¬ ∀ (r : Renderer) (d : Document) (page : Noted Document) (path : TreePath) (j : Nat)
      (id : String), r.hooks = [] → r.transform d = some page →
        page.value.SectionHeading path j id → page.value.PermalinkAt (path ++ [j, 0]) id := by
  intro claimed
  have heading : (bare.runPasses (sectionPage [("class", "warning")])).value.SectionHeading
      [0] 0 "e632b709" :=
    .of_listed (by decide +kernel) (by decide +kernel)
  have empty : ((bare.runPasses (sectionPage [("class", "warning")])).value.at?
      [0, 0, 0]).isNone := by
    decide +kernel
  rcases claimed bare (sectionPage [("class", "warning")]) _ [0] 0 "e632b709" rfl
    (bare.transform_of_no_hooks rfl _) heading with ⟨link, atLink, -⟩
  change (bare.runPasses (sectionPage [("class", "warning")])).value.at? [0, 0, 0] =
    some link at atLink
  rw [atLink] at empty
  cases empty

end Renderer

end Folio
