import Folio.Page.Outline
import Folio.Proofs.Markup.Substitution
import Folio.Proofs.Page.FullTextPath

namespace Folio

open Markup

/-!
# Pages with other code

Example code may look like structure, and must not be mistaken for it.  Two pages that differ in
nothing but what their code blocks hold are the same page with the code hidden.  A code block in a
heading is a part of the heading and is not hidden.  What a reading finds on the page with hidden
code, and on the page itself, it finds on every page with other code: this holds of the outline, of
the places of full-text fragments, and of every walk outside code whose test does not look into
elements.  The search for the title goes into code, so that the title is the same only where the
first heading of the first level stands outside it.
-/

namespace Markup

namespace Node

mutual

/-- A tree in which code blocks are empty, those in headings apart. -/
def hideCode : Node → Node
  | .element tag attrs children =>
    .element tag attrs
      (if tag = "pre" then []
      else if Element.headingTags.contains tag then children
      else hideCodeIn children)
  | n => n

def hideCodeIn : List Node → List Node
  | [] => []
  | n :: ns => n.hideCode :: hideCodeIn ns

end

end Node

def Element.hideCode (e : Element) : Element :=
  { e with
    children :=
      if e.tag = "pre" then []
      else if e.isHeading then e.children
      else Node.hideCodeIn e.children }

namespace Node

theorem element?_hideCode (n : Node) : n.hideCode.element? = n.element?.map Element.hideCode := by
  cases n <;> rfl

theorem hideCodeIn_eq_map (nodes : List Node) : hideCodeIn nodes = nodes.map hideCode := by
  induction nodes with
  | nil => rfl
  | cons n nodes inductionHypothesis => rw [hideCodeIn, inductionHypothesis, List.map_cons]

theorem elements_hideCodeIn (nodes : List Node) :
    elements (hideCodeIn nodes) = (elements nodes).map Element.hideCode := by
  rw [hideCodeIn_eq_map, elements, elements, List.filterMap_map, List.map_filterMap]
  congr 1
  funext n
  exact element?_hideCode n

end Node

namespace Element

variable {e : Element}

theorem hideCode_of_isHeading (heading : e.isHeading = true) : e.hideCode = e := by
  have proper : e.tag ≠ "pre" := by
    intro code
    rw [isHeading, code] at heading
    exact absurd heading (by decide)
  rw [hideCode, if_neg proper, if_pos heading]

theorem child?_hideCode (proper : e.tag ≠ "pre") (noHeading : e.isHeading = false) (i : Nat) :
    e.hideCode.child? i = (e.child? i).map hideCode := by
  rw [child?, child?, hideCode]
  simp only [if_neg proper, noHeading, Bool.false_eq_true, if_false]
  rw [Node.hideCodeIn_eq_map, List.getElem?_map]
  cases e.children[i]? with
  | none => rfl
  | some n => exact n.element?_hideCode

end Element

namespace Node

variable {p : Element → Bool}

mutual

theorem paths_hideCode (ignores : Element.IgnoresChildren p) : ∀ n : Node,
    n.hideCode.paths (fun c => !c.isCodeBlock) p = n.paths (fun c => !c.isCodeBlock) p
  | .element tag attrs children => by
      have sameTest := ignores tag attrs
      rw [hideCode]
      split
      · next code => subst code; simp [paths, Element.isCodeBlock, sameTest _ children]
      · split
        · rfl
        · rw [paths, paths, pathsFrom_hideCodeIn ignores 0 children, sameTest _ children]
          rfl
  | .text _ => rfl
  | .comment _ => rfl
  | .raw _ => rfl

/-- A walk outside code does not see what is hidden. -/
theorem pathsFrom_hideCodeIn (ignores : Element.IgnoresChildren p) : ∀ (i : Nat)
    (nodes : List Node),
    pathsFrom (fun c => !c.isCodeBlock) p i (hideCodeIn nodes) =
      pathsFrom (fun c => !c.isCodeBlock) p i nodes
  | _, [] => rfl
  | i, n :: nodes => by
      rw [hideCodeIn, pathsFrom, pathsFrom, paths_hideCode ignores n,
        pathsFrom_hideCodeIn ignores (i + 1) nodes]

end

end Node

end Markup

namespace OutlineEntry

theorem headingOf_hideCodeIn (nodes : List Node) :
    headingOf (Node.hideCodeIn nodes) = headingOf nodes := by
  have sameTest : Element.isHeading ∘ Element.hideCode = Element.isHeading := rfl
  rw [headingOf, headingOf, Node.elements_hideCodeIn, List.find?_map, sameTest]
  cases found : (Node.elements nodes).find? Element.isHeading with
  | none => rfl
  | some heading =>
      rw [Option.map_some, Element.hideCode_of_isHeading (List.find?_some found)]

mutual

theorem ofNode_hideCode : ∀ n : Node, ofNode n.hideCode = ofNode n
  | .element tag attrs children => by
      rw [Node.hideCode]
      by_cases isSection : tag = "section"
      · subst isSection
        have sameId : Element.id? ⟨"section", attrs, Node.hideCodeIn children⟩ =
            Element.id? ⟨"section", attrs, children⟩ := rfl
        have hidden : (if "section" = "pre" then []
            else if Element.headingTags.contains "section" then children
            else Node.hideCodeIn children) = Node.hideCodeIn children := by
          rw [if_neg (by decide), if_neg (by decide)]
        rw [hidden, ofNode, ofNode, sameId, headingOf_hideCodeIn, ofNodes_hideCodeIn children]
      · rw [ofNode, ofNode, if_neg isSection, if_neg isSection]
  | .text _ => rfl
  | .comment _ => rfl
  | .raw _ => rfl

/-- An outline does not show what is hidden. -/
theorem ofNodes_hideCodeIn : ∀ nodes : List Node, ofNodes (Node.hideCodeIn nodes) = ofNodes nodes
  | [] => rfl
  | n :: nodes => by
      rw [Node.hideCodeIn, ofNodes, ofNodes, ofNode_hideCode n, ofNodes_hideCodeIn nodes]

end

end OutlineEntry

namespace Markup.Element

/-- Whether a path leads to a place outside example code: it goes through no code block, or comes to
a heading first. -/
def OutsideExamples : TreePath → Element → Prop
  | [], _ => True
  | i :: path, e =>
    e.isHeading = true ∨ (e.tag ≠ "pre" ∧ ∀ c, e.child? i = some c → c.OutsideExamples path)

/-- Hiding code leaves elements where they are, if it leaves them at all. -/
theorem exists_at?_of_hideCode {path : TreePath} {e c' : Element}
    (atPath : e.hideCode.at? path = some c') :
    ∃ c, e.at? path = some c ∧ c'.tag = c.tag ∧ c'.attrs = c.attrs := by
  induction path generalizing e with
  | nil => exact ⟨e, rfl, by rw [← Option.some.inj atPath]; exact ⟨rfl, rfl⟩⟩
  | cons i path inductionHypothesis =>
      by_cases code : e.tag = "pre"
      · rw [at?_cons, child?, hideCode, if_pos code] at atPath
        cases atPath
      · cases heading : e.isHeading with
        | true =>
            rw [hideCode_of_isHeading heading] at atPath
            exact ⟨c', atPath, rfl, rfl⟩
        | false =>
            rw [at?_cons, child?_hideCode code heading] at atPath
            rw [at?_cons]
            cases atChild : e.child? i with
            | none => rw [atChild] at atPath; cases atPath
            | some c =>
                rw [atChild] at atPath
                exact inductionHypothesis atPath

/-- A heading outside example code stays as it is where code is hidden. -/
theorem at?_hideCode {path : TreePath} {e c : Element} (outside : e.OutsideExamples path)
    (atPath : e.at? path = some c) (heading : c.isHeading = true) :
    e.hideCode.at? path = some c := by
  induction path generalizing e with
  | nil =>
      have same : e = c := Option.some.inj atPath
      rw [← hideCode_of_isHeading heading, ← same]
      rfl
  | cons i path inductionHypothesis =>
      cases headingHere : e.isHeading with
      | true => rw [hideCode_of_isHeading headingHere, atPath]
      | false =>
          rcases outside with isHeading | ⟨proper, below⟩
          · rw [headingHere] at isHeading
            cases isHeading
          · rw [at?_cons] at atPath
            rcases Option.bind_eq_some_iff.mp atPath with ⟨b, atChild, atRest⟩
            rw [at?_cons, child?_hideCode proper headingHere, atChild]
            exact inductionHypothesis (below b atChild) atRest

end Markup.Element

/-! ## Pages -/

namespace Document

variable {d d' : Document}

/-- A page in which code blocks are empty, those in headings apart. -/
def hideCode (d : Document) : Document := { d with children := Node.hideCodeIn d.children }

theorem outline_hideCode (d : Document) : d.hideCode.outline = d.outline :=
  OutlineEntry.ofNodes_hideCodeIn d.children

theorem pathsOutsideCode_hideCode {p : Element → Bool} (ignores : Element.IgnoresChildren p)
    (d : Document) : d.hideCode.pathsOutsideCode p = d.pathsOutsideCode p :=
  Node.pathsFrom_hideCodeIn ignores 0 d.children

theorem fullTextPaths_hideCode (d : Document) : d.hideCode.fullTextPaths = d.fullTextPaths := by
  simp only [fullTextPaths, fullTextTags, List.foldl_cons, List.foldl_nil]
  rw [pathsOutsideCode_hideCode (fun _ _ _ _ => rfl), pathsOutsideCode_hideCode (fun _ _ _ _ => rfl)]

/-- Whether an element is a heading of the first level. -/
def isTitle (e : Element) : Bool := e.tag == "h1"

theorem isHeading_of_isTitle {e : Element} (title : isTitle e = true) : e.isHeading = true := by
  rw [Element.isHeading, beq_iff_eq.mp title]
  rfl

theorem title?_eq (d : Document) :
    d.title? = ((d.root.findBelow? isTitle).map Element.normalText).filter (!·.isEmpty) := rfl

/-- Whether the heading that a page takes its title from stands outside example code. -/
def TitledOutsideExamples (d : Document) : Prop :=
  ∀ path rest, d.allPaths isTitle = path :: rest → d.root.OutsideExamples path

/-- In two ascending lists, one a part of the other, what comes first in the longer one comes first
in the shorter one if it is there. -/
private theorem head?_eq_of_subset {first : TreePath} {rest part : List TreePath}
    (ordered : (first :: rest).Pairwise (· < ·)) (orderedPart : part.Pairwise (· < ·))
    (isPart : part ⊆ first :: rest) (member : first ∈ part) :
    ∃ later, part = first :: later := by
  cases part with
  | nil => cases member
  | cons other later =>
      refine ⟨later, ?_⟩
      rcases List.mem_cons.mp member with same | isLater
      · rw [same]
      · have before : other < first := (List.pairwise_cons.mp orderedPart).1 first isLater
        rcases List.mem_cons.mp (isPart List.mem_cons_self) with same | inRest
        · rw [same]
        · have after := (List.pairwise_cons.mp ordered).1 other inRest
          exact absurd (List.lt_trans before after) (List.lt_irrefl other)

/-- A title that stands outside example code is found where code is hidden. -/
theorem title?_hideCode (outside : d.TitledOutsideExamples) : d.hideCode.title? = d.title? := by
  have part : d.hideCode.allPaths isTitle ⊆ d.allPaths isTitle := by
    intro path listed
    rcases mem_allPaths_iff.mp listed with ⟨below, c', atPath, title⟩
    rcases Element.exists_at?_of_hideCode (e := d.root) atPath with ⟨c, atPath, sameTag, -⟩
    exact mem_allPaths_iff.mpr ⟨below, c, atPath, by rwa [isTitle, ← sameTag]⟩
  rw [title?_eq, title?_eq]
  cases listed : d.allPaths isTitle with
  | nil =>
      rw [listed] at part
      rw [Element.findBelow?_eq_none_iff.mpr listed,
        Element.findBelow?_eq_none_iff.mpr (List.subset_nil.mp part)]
  | cons path rest =>
      rcases Element.findBelow?_eq_some listed with ⟨c, atPath, title, found⟩
      have kept := Element.at?_hideCode (outside path rest listed) atPath
        (isHeading_of_isTitle title)
      have member : path ∈ d.hideCode.allPaths isTitle :=
        mem_allPaths_iff.mpr ⟨(mem_allPaths_iff.mp (listed ▸ List.mem_cons_self)).1, c, kept, title⟩
      rw [listed] at part
      rcases head?_eq_of_subset (listed ▸ Node.pairwise_pathsFrom _ _ 0 _)
        (Node.pairwise_pathsFrom _ _ 0 _) part member with ⟨later, listedHidden⟩
      rcases Element.findBelow?_eq_some listedHidden with ⟨c', atPath', -, foundHidden⟩
      have same : c' = c := Option.some.inj (atPath'.symm.trans kept)
      rw [found, foundHidden, same]

/-- Two pages that differ only in their example code have the same outline, the same full-text
fragments and the same headings, callouts and figures, each at its place.  They have the same title
if neither takes it from example code. -/
theorem structure_eq_of_hideCode_eq (same : d.hideCode = d'.hideCode) :
    d.outline = d'.outline ∧
      d.fullTextPaths = d'.fullTextPaths ∧
      d.pathsOutsideCode Element.isHeading = d'.pathsOutsideCode Element.isHeading ∧
      d.pathsOutsideCode Element.isCallout = d'.pathsOutsideCode Element.isCallout ∧
      (d.pathsOutsideCode fun e => e.tag == "figure") =
        d'.pathsOutsideCode (fun e => e.tag == "figure") ∧
      (d.TitledOutsideExamples → d'.TitledOutsideExamples → d.title? = d'.title?) := by
  have walks : ∀ p, Element.IgnoresChildren p → d.pathsOutsideCode p = d'.pathsOutsideCode p := by
    intro p ignores
    rw [← pathsOutsideCode_hideCode ignores d, same, pathsOutsideCode_hideCode ignores d']
  refine ⟨?_, ?_, ?_, ?_, ?_, ?_⟩
  · rw [← outline_hideCode d, same, outline_hideCode d']
  · rw [← fullTextPaths_hideCode d, same, fullTextPaths_hideCode d']
  · exact walks _ fun _ _ _ _ => rfl
  · exact walks _ fun _ _ _ _ => rfl
  · exact walks _ fun _ _ _ _ => rfl
  · intro outside outside'
    rw [← title?_hideCode outside, same, title?_hideCode outside']

/-- A page with a title, a section and some example code. -/
def pageWithCode (code : List Node) : Document where
  children :=
    [.element "section" (Dict.ofList [("id", "s")])
      [.element "h1" Dict.empty [.text "T"], .element "pre" Dict.empty code]]

theorem titledOutsideExamples_pageWithCode (code : List Node) :
    (pageWithCode code).TitledOutsideExamples := by
  intro path rest listed
  have first : path = [0, 0] := by
    have leads : (pageWithCode code).allPaths isTitle =
        [0, 0] :: (Node.pathsFrom (fun _ => true) isTitle 1
          [.element "pre" Dict.empty code]).map (0 :: ·) := by
      simp [allPaths, Element.allPaths, pageWithCode, root, Node.pathsFrom, Node.paths, isTitle]
    exact (List.cons.inj (listed.symm.trans leads)).1
  subst first
  refine Or.inr ⟨(by decide : "article" ≠ "pre"), ?_⟩
  intro c atChild
  rw [← Option.some.inj atChild]
  refine Or.inr ⟨(by decide : "section" ≠ "pre"), ?_⟩
  intro c _
  trivial

theorem structure_eq_of_hideCode_eq_pageWithCode :
    let first := pageWithCode [.element "h1" Dict.empty [.text "U"]]
    let second := pageWithCode [.element "p" Dict.empty [], .text "code"]
    first.hideCode = second.hideCode ∧ first.TitledOutsideExamples ∧
      second.TitledOutsideExamples ∧ first.fullTextPaths = second.fullTextPaths ∧
      first.title? = second.title? := by
  intro first second
  have same : first.hideCode = second.hideCode := rfl
  have alike := structure_eq_of_hideCode_eq same
  exact ⟨same, titledOutsideExamples_pageWithCode _, titledOutsideExamples_pageWithCode _, alike.2.1,
    alike.2.2.2.2.2 (titledOutsideExamples_pageWithCode _) (titledOutsideExamples_pageWithCode _)⟩

/-- A page with nothing but example code, which takes its title from it. -/
def codePage (code : List Node) : Document where
  children := [.element "pre" Dict.empty code]

/-- Pages that differ only in their example code may have different titles. -/
theorem not_forall_title?_eq_of_hideCode_eq :
    ¬ ∀ d d' : Document, d.hideCode = d'.hideCode → d.title? = d'.title? := by
  intro same
  have titles := same (codePage [.element "h1" Dict.empty [.text "Example"]]) (codePage []) rfl
  revert titles
  decide +kernel

end Document

end Folio
