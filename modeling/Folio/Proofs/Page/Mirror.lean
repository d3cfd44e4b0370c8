import Folio.Page.Link
import Folio.Page.Outline
import Folio.Page.Permalink
import Folio.Page.SearchRecord
import Mathlib.Data.List.Forall2

namespace Folio

open Markup

/-!
# Pages that mirror each other

Two passes change a page without changing what is read off it: one publishes links, the other puts
permalinks into headings.  A tree mirrors another one if it differs from it as these passes make it
differ: addresses of links may be others, and a heading may hold a permalink in front of its
children.

What is read off an element is a view of it.  A view is steady if it is the same for an element and
its mirror image.  The texts and the labels in outlines and search records are steady views; they
are put together from searches, and a search overlooks permalinks if none of them passes its test.
-/

namespace Markup

/-- Whether a mirror image may hold some nodes in front of the children of an element. -/
def IsAddition (tag : String) (front : List Node) : Prop :=
  front = [] ∨ (Element.headingTags.contains tag = true ∧ ∃ id, front = [(permalink id).toNode])

namespace Node

mutual

/-- Whether the second tree mirrors the first. -/
def Mirrors : Node → Node → Prop
  | .element tag attrs children, m =>
    ∃ attrs' front children', m = .element tag attrs' (front ++ children') ∧
      (∀ name, name ≠ "href" → attrs'.get? name = attrs.get? name) ∧
      IsAddition tag front ∧ MirrorsIn children children'
  | n, m => m = n

def MirrorsIn : List Node → List Node → Prop
  | [], ms => ms = []
  | n :: ns, ms => ∃ m rest, ms = m :: rest ∧ n.Mirrors m ∧ MirrorsIn ns rest

end

mutual

theorem mirrors_refl : ∀ n : Node, n.Mirrors n
  | .element _ attrs children =>
      ⟨attrs, [], children, rfl, fun _ _ => rfl, Or.inl rfl, mirrorsIn_refl children⟩
  | .text _ => rfl
  | .comment _ => rfl
  | .raw _ => rfl

theorem mirrorsIn_refl : ∀ nodes : List Node, MirrorsIn nodes nodes
  | [] => rfl
  | n :: nodes => ⟨n, nodes, rfl, mirrors_refl n, mirrorsIn_refl nodes⟩

end

theorem get?_publishAttrs (tag : String) (attrs : Dict String) {name : String}
    (notHref : name ≠ "href") : (publishAttrs tag attrs).get? name = attrs.get? name := by
  rw [publishAttrs]
  split
  · split
    · split
      · exact Table.get?_insert_of_ne _ _ notHref
      · rfl
    · rfl
  · rfl

mutual

theorem mirrors_addPermalinks : ∀ (n : Node) (sectionId : Option String),
    n.Mirrors (n.addPermalinks sectionId)
  | .element tag attrs children, sectionId => by
      rw [addPermalinks]
      split
      · exact mirrors_refl _
      · exact ⟨attrs, _, _, rfl, fun _ _ => rfl,
          permalinksOf_cases sectionId ⟨tag, attrs, children⟩,
          mirrorsIn_addPermalinksIn children _⟩
  | .text _, _ => rfl
  | .comment _, _ => rfl
  | .raw _, _ => rfl

/-- With its permalinks a tree mirrors itself without them. -/
theorem mirrorsIn_addPermalinksIn : ∀ (nodes : List Node) (sectionId : Option String),
    MirrorsIn nodes (addPermalinksIn sectionId nodes)
  | [], _ => rfl
  | n :: nodes, sectionId =>
      ⟨_, _, rfl, mirrors_addPermalinks n sectionId, mirrorsIn_addPermalinksIn nodes sectionId⟩

end

mutual

theorem mirrors_publishLinks : ∀ n : Node, n.Mirrors n.publishLinks
  | .element tag attrs children =>
      ⟨publishAttrs tag attrs, [], publishLinksIn children, rfl,
        fun _ notHref => get?_publishAttrs tag attrs notHref, Or.inl rfl,
        mirrorsIn_publishLinksIn children⟩
  | .text _ => rfl
  | .comment _ => rfl
  | .raw _ => rfl

/-- With its links published a tree mirrors itself. -/
theorem mirrorsIn_publishLinksIn : ∀ nodes : List Node, MirrorsIn nodes (publishLinksIn nodes)
  | [] => rfl
  | n :: nodes => ⟨_, _, rfl, mirrors_publishLinks n, mirrorsIn_publishLinksIn nodes⟩

end

end Node

def Element.Mirrors (e e' : Element) : Prop := e.toNode.Mirrors e'.toNode

namespace Element.Mirrors

variable {e e' : Element}

theorem tag_eq (mirrors : e.Mirrors e') : e'.tag = e.tag := by
  rcases mirrors with ⟨attrs', front, children', same, -⟩
  exact (Node.element.inj same).1

theorem attr?_eq (mirrors : e.Mirrors e') {name : String} (notHref : name ≠ "href") :
    e'.attr? name = e.attr? name := by
  rcases mirrors with ⟨attrs', front, children', same, sameAttrs, -⟩
  rw [Element.attr?, (Node.element.inj same).2.1]
  exact sameAttrs name notHref

theorem exists_children (mirrors : e.Mirrors e') :
    ∃ front children', e'.children = front ++ children' ∧ IsAddition e.tag front ∧
      Node.MirrorsIn e.children children' := by
  rcases mirrors with ⟨attrs', front, children', same, -, addition, content⟩
  exact ⟨front, children', (Node.element.inj same).2.2, addition, content⟩

/-- Outside headings nothing is put in. -/
theorem mirrorsIn_children (mirrors : e.Mirrors e') (noHeading : e.isHeading = false) :
    Node.MirrorsIn e.children e'.children := by
  rcases mirrors.exists_children with ⟨front, children', divided, addition, content⟩
  rcases addition with rfl | ⟨heading, -⟩
  · rw [divided]
    exact content
  · rw [isHeading, heading] at noHeading
    cases noHeading

/-- Nothing is put into a caption. -/
theorem mirrorsIn_caption (mirrors : e.Mirrors e') (isCaption : (e.tag == "figcaption") = true) :
    Node.MirrorsIn e.children e'.children := by
  apply mirrors.mirrorsIn_children
  rw [isHeading, beq_iff_eq.mp isCaption]
  decide

end Element.Mirrors

theorem none_or_some_of_rel {α β : Type} {related : α → β → Prop} {a : Option α} {b : Option β}
    (rel : Option.Rel related a b) :
    (a = none ∧ b = none) ∨ ∃ x y, a = some x ∧ b = some y ∧ related x y := by
  cases rel with
  | none => exact Or.inl ⟨rfl, rfl⟩
  | some here => exact Or.inr ⟨_, _, rfl, rfl, here⟩

theorem Node.Mirrors.element? {n m : Node} (mirrors : n.Mirrors m) :
    Option.Rel Element.Mirrors n.element? m.element? := by
  cases n with
  | element tag attrs children =>
      rcases mirrors with ⟨attrs', front, children', rfl, rest⟩
      exact Option.Rel.some ⟨attrs', front, children', rfl, rest⟩
  | text s => rw [show m = .text s from mirrors]; exact Option.Rel.none
  | comment s => rw [show m = .comment s from mirrors]; exact Option.Rel.none
  | raw markup => rw [show m = .raw markup from mirrors]; exact Option.Rel.none

namespace Node

theorem mirrorsIn_iff_forall₂ {nodes nodes' : List Node} :
    MirrorsIn nodes nodes' ↔ List.Forall₂ Mirrors nodes nodes' := by
  induction nodes generalizing nodes' with
  | nil => rw [List.forall₂_nil_left_iff, MirrorsIn]
  | cons n nodes inductionHypothesis =>
      rw [List.forall₂_cons_left_iff, MirrorsIn]
      constructor
      · rintro ⟨m, rest, rfl, here, below⟩
        exact ⟨m, rest, here, inductionHypothesis.mp below, rfl⟩
      · rintro ⟨m, rest, here, below, rfl⟩
        exact ⟨m, rest, rfl, here, inductionHypothesis.mpr below⟩

theorem MirrorsIn.length_eq {nodes nodes' : List Node} (mirrors : MirrorsIn nodes nodes') :
    nodes'.length = nodes.length :=
  (mirrorsIn_iff_forall₂.mp mirrors).length_eq.symm

theorem MirrorsIn.getElem? {nodes nodes' : List Node} (mirrors : MirrorsIn nodes nodes') (i : Nat) :
    Option.Rel Mirrors nodes[i]? nodes'[i]? := by
  induction nodes generalizing nodes' i with
  | nil =>
      rw [show nodes' = [] from mirrors]
      exact Option.Rel.none
  | cons n nodes inductionHypothesis =>
      rcases mirrors with ⟨m, rest, rfl, here, below⟩
      cases i with
      | zero => exact Option.Rel.some here
      | succ i => exact inductionHypothesis below i

theorem MirrorsIn.elements {nodes nodes' : List Node} (mirrors : MirrorsIn nodes nodes') :
    List.Forall₂ Element.Mirrors (elements nodes) (elements nodes') :=
  List.rel_filterMap (fun _ _ here => Mirrors.element? here) (mirrorsIn_iff_forall₂.mp mirrors)

end Node

/-! ## Steady views -/

/-- Whether an element and its mirror image look the same. -/
def Steady {α : Type} (view : Element → α) : Prop := ∀ e e', e.Mirrors e' → view e' = view e

/-- Whether a test cannot tell an element from its mirror image, and no permalink passes it. -/
structure Overlooks (p : Element → Bool) : Prop where
  steady : Steady p
  fails : ∀ id, p (permalink id) = false

section Lists

variable {α : Type} {view : Element → α} {p : Element → Bool} {elements elements' : List Element}

theorem Steady.map_eq (steady : Steady view)
    (mirrors : List.Forall₂ Element.Mirrors elements elements') :
    elements'.map view = elements.map view := by
  induction mirrors with
  | nil => rfl
  | cons here _ inductionHypothesis =>
      rw [List.map_cons, List.map_cons, inductionHypothesis, steady _ _ here]

theorem Steady.filter (steady : Steady p)
    (mirrors : List.Forall₂ Element.Mirrors elements elements') :
    List.Forall₂ Element.Mirrors (elements.filter p) (elements'.filter p) := by
  apply List.rel_filter _ mirrors
  intro e e' here
  change p e = true ↔ p e' = true
  rw [steady e e' here]

/-- The first of a list that passes a test looks like the first of the mirror images. -/
theorem Steady.map_find?_eq (steady : Steady view) (test : Steady p)
    (mirrors : List.Forall₂ Element.Mirrors elements elements') :
    (elements'.find? p).map view = (elements.find? p).map view := by
  rw [← List.head?_filter, ← List.head?_filter, ← List.head?_map, ← List.head?_map,
    steady.map_eq (test.filter mirrors)]

end Lists

namespace Node

theorem findIn?_append (p : Element → Bool) (first second : List Node) :
    findIn? p (first ++ second) = (findIn? p first).or (findIn? p second) := by
  induction first with
  | nil => rfl
  | cons n first inductionHypothesis =>
      rw [List.cons_append, findIn?, findIn?, inductionHypothesis, Option.or_assoc]

end Node

section Searches

variable {α : Type} {view : Element → α} {p : Element → Bool}

theorem IsAddition.findIn?_eq_none {tag : String} {front : List Node}
    (addition : IsAddition tag front) (overlooks : Overlooks p) :
    Node.findIn? p front = none := by
  rcases addition with rfl | ⟨-, id, rfl⟩
  · rfl
  · have fails := overlooks.fails id
    simp only [permalink] at fails
    simp [Node.findIn?, Node.find?, Element.toNode, permalink, fails]

theorem IsAddition.filter_elements_eq_nil {tag : String} {front : List Node}
    (addition : IsAddition tag front) (overlooks : Overlooks p) :
    (Node.elements front).filter p = [] := by
  rcases addition with rfl | ⟨-, id, rfl⟩
  · rfl
  · change [permalink id].filter p = []
    rw [List.filter_singleton, overlooks.fails id]
    rfl

mutual

theorem Node.map_find?_of_mirrors (overlooks : Overlooks p)
    (agree : ∀ e e', e.Mirrors e' → p e = true → view e' = view e) :
    ∀ n m : Node, n.Mirrors m → (m.find? p).map view = (n.find? p).map view
  | .element tag attrs children, _, ⟨attrs', front, children', rfl, same, addition, content⟩ => by
      have here : Element.Mirrors ⟨tag, attrs, children⟩ ⟨tag, attrs', front ++ children'⟩ :=
        ⟨attrs', front, children', rfl, same, addition, content⟩
      rw [find?, find?, overlooks.steady _ _ here]
      split
      · next passes => exact congrArg some (agree _ _ here passes)
      · rw [findIn?_append, addition.findIn?_eq_none overlooks, Option.none_or]
        exact map_findIn?_of_mirrors overlooks agree children children' content
  | .text _, _, rfl => rfl
  | .comment _, _, rfl => rfl
  | .raw _, _, rfl => rfl

/-- A search that overlooks permalinks finds mirror images. -/
theorem Node.map_findIn?_of_mirrors (overlooks : Overlooks p)
    (agree : ∀ e e', e.Mirrors e' → p e = true → view e' = view e) :
    ∀ nodes nodes' : List Node, Node.MirrorsIn nodes nodes' →
      (findIn? p nodes').map view = (findIn? p nodes).map view
  | [], _, rfl => rfl
  | n :: nodes, _, ⟨m, rest, rfl, here, below⟩ => by
      have first := map_find?_of_mirrors overlooks agree n m here
      have later := map_findIn?_of_mirrors overlooks agree nodes rest below
      rw [findIn?, findIn?]
      cases found : n.find? p with
      | some c =>
          cases found' : m.find? p with
          | some c' => rw [found, found'] at first; exact first
          | none => rw [found, found'] at first; cases first
      | none =>
          cases found' : m.find? p with
          | some c' => rw [found, found'] at first; cases first
          | none => exact later

end

namespace Element.Mirrors

variable {e e' : Element}

theorem map_findBelow? (mirrors : e.Mirrors e') (overlooks : Overlooks p)
    (agree : ∀ c c', c.Mirrors c' → p c = true → view c' = view c) :
    (e'.findBelow? p).map view = (e.findBelow? p).map view := by
  rcases mirrors.exists_children with ⟨front, children', divided, addition, content⟩
  rw [findBelow?, divided, Node.findIn?_append, addition.findIn?_eq_none overlooks, Option.none_or]
  exact Node.map_findIn?_of_mirrors overlooks agree _ _ content

theorem filter_childElements (mirrors : e.Mirrors e') (overlooks : Overlooks p) :
    List.Forall₂ Element.Mirrors (e.childElements.filter p) (e'.childElements.filter p) := by
  rcases mirrors.exists_children with ⟨front, children', divided, addition, content⟩
  rw [childElements, childElements, divided, Node.elements, Node.elements, List.filterMap_append,
    List.filter_append, ← Node.elements, ← Node.elements,
    addition.filter_elements_eq_nil overlooks, List.nil_append]
  exact overlooks.steady.filter content.elements

theorem map_findChild? (mirrors : e.Mirrors e') (overlooks : Overlooks p) (steady : Steady view) :
    (e'.findChild? p).map view = (e.findChild? p).map view := by
  rw [findChild?, findChild?, ← List.head?_filter, ← List.head?_filter, ← List.head?_map,
    ← List.head?_map, steady.map_eq (mirrors.filter_childElements overlooks)]

end Element.Mirrors

end Searches

namespace Node

theorem shownTextOf_append (first second : List Node) :
    shownTextOf (first ++ second) = shownTextOf first ++ shownTextOf second := by
  induction first with
  | nil => rw [List.nil_append, shownTextOf, String.empty_append]
  | cons n first inductionHypothesis =>
      rw [List.cons_append, shownTextOf, shownTextOf, inductionHypothesis, String.append_assoc]

end Node

theorem dropTags_permalinkIcon : dropTags false permalinkIcon.toList = [] := by
  unfold permalinkIcon
  -- The pieces of the icon are taken as lists of characters, which can be evaluated.
  repeat rw [String.toList_append]
  repeat rw [String.toList_ofList]
  decide +kernel

theorem stripTags_permalinkIcon : stripTags permalinkIcon = "" := by
  rw [stripTags, dropTags_permalinkIcon]
  rfl

/-- A permalink shows no text: its icon is made of tags. -/
theorem IsAddition.shownTextOf_eq_empty {tag : String} {front : List Node}
    (addition : IsAddition tag front) : Node.shownTextOf front = "" := by
  rcases addition with rfl | ⟨-, id, rfl⟩
  · rfl
  · rw [Node.shownTextOf, Node.shownTextOf, permalink, Element.toNode, Node.shownText,
      Node.shownTextOf, Node.shownTextOf, Node.shownText, stripTags_permalinkIcon]
    rfl

mutual

theorem Node.shownText_of_mirrors : ∀ n m : Node, n.Mirrors m → m.shownText = n.shownText
  | .element tag attrs children, _, ⟨attrs', front, children', rfl, same, addition, content⟩ => by
      rw [shownText, shownText, shownTextOf_append, addition.shownTextOf_eq_empty,
        String.empty_append, shownTextOf_of_mirrors children children' content]
  | .text _, _, rfl => rfl
  | .comment _, _, rfl => rfl
  | .raw _, _, rfl => rfl

theorem Node.shownTextOf_of_mirrors : ∀ nodes nodes' : List Node,
    Node.MirrorsIn nodes nodes' → shownTextOf nodes' = shownTextOf nodes
  | [], _, rfl => rfl
  | n :: nodes, _, ⟨m, rest, rfl, here, below⟩ => by
      rw [shownTextOf, shownTextOf, shownText_of_mirrors n m here,
        shownTextOf_of_mirrors nodes rest below]

end

theorem steady_shownText : Steady Element.shownText :=
  fun e e' mirrors => Node.shownText_of_mirrors e.toNode e'.toNode mirrors

theorem steady_normalText : Steady Element.normalText := by
  intro e e' mirrors
  rw [Element.normalText, Element.normalText, steady_shownText e e' mirrors]

theorem Steady.comp {α β : Type} {view : Element → α} (steady : Steady view) (g : α → β) :
    Steady fun e => g (view e) :=
  fun e e' mirrors => congrArg g (steady e e' mirrors)

theorem steady_tag : Steady Element.tag := fun _ _ mirrors => mirrors.tag_eq

theorem steady_id? : Steady Element.id? := by
  intro e e' mirrors
  rw [Element.id?, Element.id?, mirrors.attr?_eq (by decide)]

theorem steady_hasClass (name : String) : Steady (·.hasClass name) := by
  intro e e' mirrors
  have classes : e'.attr? "class" = e.attr? "class" := mirrors.attr?_eq (by decide)
  simp only [Element.hasClass, classes]

theorem steady_isCallout : Steady Element.isCallout := fun e e' mirrors =>
  congrArg₂ Bool.or (steady_hasClass "warning" e e' mirrors) (steady_hasClass "info" e e' mirrors)

theorem steady_indexingFlag? : Steady indexingFlag? := by
  intro e e' mirrors
  rw [indexingFlag?, indexingFlag?, mirrors.attr?_eq (by decide)]

theorem overlooks_tag {tag : String} (noLink : tag ≠ "a") : Overlooks (·.tag == tag) where
  steady := steady_tag.comp (· == tag)
  fails _ := beq_false_of_ne (Ne.symm noLink)

theorem overlooks_isHeading : Overlooks Element.isHeading where
  steady := steady_tag.comp Element.headingTags.contains
  fails _ := rfl

theorem overlooks_isCallout : Overlooks Element.isCallout where
  steady := steady_isCallout
  fails id := by
    have classes : (permalink id).attr? "class" = some "anchor" := rfl
    rw [Element.isCallout, Element.hasClass, Element.hasClass, classes]
    decide

theorem overlooks_hasId : Overlooks (·.id?.isSome) where
  steady := steady_id?.comp Option.isSome
  fails _ := rfl

theorem Overlooks.and {p q : Element → Bool} (overlooks : Overlooks p) (steady : Steady q) :
    Overlooks fun e => p e && q e where
  steady e e' mirrors := congrArg₂ Bool.and (overlooks.steady e e' mirrors) (steady e e' mirrors)
  fails id := Bool.and_eq_false_iff.mpr (Or.inl (overlooks.fails id))

theorem Overlooks.or {p q : Element → Bool} (first : Overlooks p) (second : Overlooks q) :
    Overlooks fun e => p e || q e where
  steady e e' mirrors := congrArg₂ Bool.or (first.steady e e' mirrors) (second.steady e e' mirrors)
  fails id := Bool.or_eq_false_iff.mpr ⟨first.fails id, second.fails id⟩

/-! ## What outlines and records show -/

theorem steady_parentLabel? : Steady parentLabel? := by
  intro e e' mirrors
  rw [parentLabel?, parentLabel?, mirrors.tag_eq, steady_isCallout e e' mirrors,
    mirrors.map_findChild? (overlooks_isHeading.or (overlooks_tag (by decide))) steady_normalText]

theorem steady_headingText : Steady headingText := by
  intro e e' mirrors
  rw [headingText, headingText,
    steady_shownText.map_eq (mirrors.filter_childElements overlooks_isHeading)]

theorem steady_calloutText : Steady calloutText := by
  intro e e' mirrors
  rw [calloutText, calloutText, mirrors.map_findBelow? (overlooks_tag (by decide))
    fun c c' here _ => steady_normalText c c' here]

theorem isSome_findBelow?_of_mirrors {p : Element → Bool} (overlooks : Overlooks p)
    {e e' : Element} (mirrors : e.Mirrors e') :
    (e'.findBelow? p).isSome = (e.findBelow? p).isSome := by
  have same : (e'.findBelow? p).map (fun _ => ()) = (e.findBelow? p).map fun _ => () :=
    mirrors.map_findBelow? overlooks fun _ _ _ _ => rfl
  have found := congrArg Option.isSome same
  rwa [Option.isSome_map, Option.isSome_map] at found

theorem steady_figureClass : Steady figureClass := by
  intro e e' mirrors
  have picture : Overlooks fun e => e.tag == "img" || e.tag == "picture" :=
    (overlooks_tag (by decide)).or (overlooks_tag (by decide))
  have code : Overlooks (·.tag == "pre") := overlooks_tag (by decide)
  rw [figureClass, figureClass, isSome_findBelow?_of_mirrors picture mirrors,
    isSome_findBelow?_of_mirrors code mirrors]

/-- The text of a caption: of its first element, if it has any. -/
def captionText (caption : Element) : String :=
  (caption.childElements.head?.getD caption).normalText

theorem captionText_of_mirrors (c c' : Element) (mirrors : c.Mirrors c')
    (isCaption : (c.tag == "figcaption") = true) : captionText c' = captionText c := by
  have same := steady_normalText.map_eq (mirrors.mirrorsIn_caption isCaption).elements
  have lead (e : Element) : captionText e =
      (e.childElements.map Element.normalText).head?.getD e.normalText := by
    rw [captionText, List.head?_map]
    cases e.childElements.head? <;> rfl
  rw [lead, lead, steady_normalText c c' mirrors]
  exact congrArg (fun texts => texts.head?.getD c.normalText) same

theorem figureCaption_eq (figure : Element) :
    figureCaption figure =
      ((figure.findBelow? fun e => e.tag == "figcaption").map captionText).getD "" := by
  rw [figureCaption]
  cases figure.findBelow? fun e => e.tag == "figcaption" <;> rfl

/-- A caption keeps its first element. -/
theorem steady_figureCaption : Steady figureCaption := by
  intro e e' mirrors
  rw [figureCaption_eq, figureCaption_eq,
    mirrors.map_findBelow? (overlooks_tag (by decide)) captionText_of_mirrors]

namespace Node

theorem headingOf_of_mirrors {e e' : Element} (mirrors : e.Mirrors e') :
    OutlineEntry.headingOf e'.children = OutlineEntry.headingOf e.children :=
  congrArg (Option.getD · "") (mirrors.map_findChild? overlooks_isHeading steady_normalText)

end Node

end Markup

namespace OutlineEntry

mutual

theorem ofNode_of_mirrors : ∀ n m : Node, n.Mirrors m → ofNode m = ofNode n
  | .element tag attrs children, _, ⟨attrs', front, children', rfl, same, addition, content⟩ => by
      have here : Element.Mirrors ⟨tag, attrs, children⟩ ⟨tag, attrs', front ++ children'⟩ :=
        ⟨attrs', front, children', rfl, same, addition, content⟩
      rw [ofNode, ofNode]
      split
      · next isSection =>
          subst isSection
          have empty : front = [] := by
            rcases addition with rfl | ⟨heading, -⟩
            · rfl
            · cases heading
          subst empty
          have heading := Node.headingOf_of_mirrors here
          rw [List.nil_append] at here heading ⊢
          rw [steady_id? _ _ here, heading, ofNodes_of_mirrors children children' content]
      · rfl
  | .text _, _, rfl => rfl
  | .comment _, _, rfl => rfl
  | .raw _, _, rfl => rfl

/-- Trees that mirror each other have one outline. -/
theorem ofNodes_of_mirrors : ∀ nodes nodes' : List Node,
    Node.MirrorsIn nodes nodes' → ofNodes nodes' = ofNodes nodes
  | [], _, rfl => rfl
  | n :: nodes, _, ⟨m, rest, rfl, here, below⟩ => by
      rw [ofNodes, ofNodes, ofNode_of_mirrors n m here, ofNodes_of_mirrors nodes rest below]

end

end OutlineEntry

end Folio
