import Folio.Proofs.Markup.Place
import Mathlib.Data.List.Basic
import Mathlib.Data.List.Sort

namespace Folio
namespace Markup

/-!
# Replacing elements

A replacement carries a state through the tree.  Where what it puts in does not depend on the state,
the tree that it makes is a substitution, which needs none.  What such a walk reports is read off
the elements that it comes to, in document order.

Most tests of elements look at the tag and the attributes only.  Two substitutions by such tests
commute as long as neither finds anything to replace in what the other one puts in.
-/

/-- Whether a function of elements looks at the tag and the attributes only. -/
def Element.IgnoresChildren {α : Type} (f : Element → α) : Prop :=
  ∀ tag attrs first second, f ⟨tag, attrs, first⟩ = f ⟨tag, attrs, second⟩

/-- The elements that a walk over the page proper goes below: all but code blocks. -/
def Element.isOutsideCode (e : Element) : Bool := !e.isCodeBlock

/-- A walk that stays outside code stops at no further elements if it is to stop at code blocks. -/
theorem Element.isOutsideCode_and_not {p : Element → Bool}
    (codeOnly : ∀ e, p e = true → e.isCodeBlock) :
    (fun e : Element => e.isOutsideCode && !p e) = isOutsideCode := by
  funext e
  cases passes : p e with
  | false => simp
  | true => simp [isOutsideCode, codeOnly e passes]

namespace Node

mutual

/-- Put other nodes in the place of the elements that pass a test.  As in a replacement, neither
code blocks that fail the test nor what has been put in are looked into. -/
def substitute (p : Element → Bool) (f : Element → List Node) : Node → List Node
  | .element tag attrs children =>
    if p ⟨tag, attrs, children⟩ then f ⟨tag, attrs, children⟩
    else if tag = "pre" then [.element tag attrs children]
    else [.element tag attrs (substituteIn p f children)]
  | n => [n]

def substituteIn (p : Element → Bool) (f : Element → List Node) : List Node → List Node
  | [] => []
  | n :: ns => n.substitute p f ++ substituteIn p f ns

end

mutual

/-- What is read off the elements that a walk comes to, in document order.  The walk goes below an
element only if it passes `enter`. -/
def collect {α : Type} (enter : Element → Bool) (view : Element → List α) : Node → List α
  | .element tag attrs children =>
    view ⟨tag, attrs, children⟩ ++
      (if enter ⟨tag, attrs, children⟩ then collectIn enter view children else [])
  | _ => []

def collectIn {α : Type} (enter : Element → Bool) (view : Element → List α) : List Node → List α
  | [] => []
  | n :: ns => n.collect enter view ++ collectIn enter view ns

end

section Steps

variable {p : Element → Bool} {f : Element → List Node} {tag : String} {attrs : Dict String}
  {children : List Node}

theorem substitute_of_passes (passes : p ⟨tag, attrs, children⟩ = true) :
    (element tag attrs children).substitute p f = f ⟨tag, attrs, children⟩ := by
  rw [substitute, if_pos passes]

theorem substitute_of_code (fails : ¬ p ⟨tag, attrs, children⟩ = true) (code : tag = "pre") :
    (element tag attrs children).substitute p f = [element tag attrs children] := by
  rw [substitute, if_neg fails, if_pos code]

theorem substitute_of_proper (fails : ¬ p ⟨tag, attrs, children⟩ = true) (proper : tag ≠ "pre") :
    (element tag attrs children).substitute p f =
      [element tag attrs (substituteIn p f children)] := by
  rw [substitute, if_neg fails, if_neg proper]

end Steps

theorem not_passes_of_proper {q : Element → Bool} (codeOnly : ∀ e, q e = true → e.isCodeBlock)
    {tag : String} (proper : tag ≠ "pre") (attrs : Dict String) (children : List Node) :
    ¬ q ⟨tag, attrs, children⟩ = true := by
  intro passes
  exact proper (beq_iff_eq.mp (codeOnly _ passes))

mutual

theorem substitute_of_no_passes {p : Element → Bool} (f : Element → List Node)
    (fails : ∀ e, p e = false) : ∀ n : Node, n.substitute p f = [n]
  | .element tag attrs children => by
      rw [substitute, fails]
      split
      · contradiction
      · rw [substituteIn_of_no_passes f fails children, ite_self]
  | .text _ => rfl
  | .comment _ => rfl
  | .raw _ => rfl

/-- A substitution by a test that no element passes leaves a tree as it is. -/
theorem substituteIn_of_no_passes {p : Element → Bool} (f : Element → List Node)
    (fails : ∀ e, p e = false) : ∀ nodes : List Node, substituteIn p f nodes = nodes
  | [] => rfl
  | n :: nodes => by
      rw [substituteIn, substitute_of_no_passes f fails n, substituteIn_of_no_passes f fails nodes,
        List.singleton_append]

end

section Lists

variable {α : Type} (p enter : Element → Bool) (f : Element → List Node)
  (view : Element → List α)

theorem substituteIn_eq_flatMap (nodes : List Node) :
    substituteIn p f nodes = nodes.flatMap (substitute p f) := by
  induction nodes with
  | nil => rfl
  | cons n nodes inductionHypothesis => rw [substituteIn, inductionHypothesis, List.flatMap_cons]

theorem substituteIn_append (first second : List Node) :
    substituteIn p f (first ++ second) = substituteIn p f first ++ substituteIn p f second := by
  rw [substituteIn_eq_flatMap, substituteIn_eq_flatMap, substituteIn_eq_flatMap,
    List.flatMap_append]

theorem substituteIn_singleton (n : Node) : substituteIn p f [n] = n.substitute p f := by
  rw [substituteIn, substituteIn, List.append_nil]

theorem collectIn_append (first second : List Node) :
    collectIn enter view (first ++ second) =
      collectIn enter view first ++ collectIn enter view second := by
  induction first with
  | nil => rfl
  | cons n first inductionHypothesis =>
      rw [List.cons_append, collectIn, collectIn, inductionHypothesis, List.append_assoc]

theorem collectIn_singleton (n : Node) : collectIn enter view [n] = n.collect enter view := by
  rw [collectIn, collectIn, List.append_nil]

end Lists

mutual

theorem flatMap_collect {α β : Type} (enter : Element → Bool) (view : Element → List α)
    (g : α → List β) : ∀ n : Node,
      (n.collect enter view).flatMap g = n.collect enter (fun e => (view e).flatMap g)
  | .element tag attrs children => by
      rw [collect, collect, List.flatMap_append]
      split
      · rw [flatMap_collectIn enter view g children]
      · rfl
  | .text _ => rfl
  | .comment _ => rfl
  | .raw _ => rfl

theorem flatMap_collectIn {α β : Type} (enter : Element → Bool) (view : Element → List α)
    (g : α → List β) : ∀ nodes : List Node,
      (collectIn enter view nodes).flatMap g =
        collectIn enter (fun e => (view e).flatMap g) nodes
  | [] => rfl
  | n :: nodes => by
      rw [collectIn, collectIn, List.flatMap_append, flatMap_collect enter view g n,
        flatMap_collectIn enter view g nodes]

end

theorem filterMap_collectIn {α β : Type} (enter : Element → Bool) (view : Element → List α)
    (g : α → Option β) (nodes : List Node) :
    (collectIn enter view nodes).filterMap g =
      collectIn enter (fun e => (view e).filterMap g) nodes := by
  simp only [List.filterMap_eq_flatMap_toList, flatMap_collectIn]

/-- What is read off an element that a walk comes to is among what the walk reads. -/
theorem mem_collectIn {α : Type} {enter : Element → Bool} {view : Element → List α}
    {nodes : List Node} {e : Element} {a : α} (reached : e ∈ collectIn enter (fun e => [e]) nodes)
    (seen : a ∈ view e) : a ∈ collectIn enter view nodes := by
  have read := flatMap_collectIn enter (fun e => [e]) view nodes
  simp only [List.flatMap_singleton] at read
  rw [← read]
  exact List.mem_flatMap.mpr ⟨e, reached, seen⟩

/-- The elements with a property that a walk comes to. -/
theorem filter_collectIn (enter p : Element → Bool) (nodes : List Node) :
    (collectIn enter (fun e => [e]) nodes).filter p =
      collectIn enter (fun e => if p e then [e] else []) nodes := by
  rw [← List.filterMap_eq_filter, filterMap_collectIn]
  congr 1
  funext e
  cases passes : p e with
  | false => simp [passes]
  | true => simp [passes]

mutual

theorem collect_nothing {α : Type} (enter : Element → Bool) : ∀ n : Node,
    n.collect enter (fun _ => ([] : List α)) = []
  | .element tag attrs children => by
      rw [collect, collectIn_nothing enter children, ite_self]
      rfl
  | .text _ => rfl
  | .comment _ => rfl
  | .raw _ => rfl

theorem collectIn_nothing {α : Type} (enter : Element → Bool) : ∀ nodes : List Node,
    collectIn enter (fun _ => ([] : List α)) nodes = []
  | [] => rfl
  | n :: nodes => by
      rw [collectIn, collect_nothing enter n, collectIn_nothing enter nodes]
      rfl

end

section Replacement

variable {α : Type} {p : Element → Bool} {f : Element → List Node} {notes : Element → List α}
  {step : Element → List α → List Node × List α}

mutual

theorem fst_replace (puts : ∀ e s, (step e s).1 = f e) :
    ∀ (n : Node) (s : List α), (n.replace p step s).1 = n.substitute p f
  | .element tag attrs children, s => by
      rw [replace, substitute]
      split
      · exact puts _ s
      · split
        · rfl
        · change [element tag attrs (replaceIn p step children s).1] = _
          rw [fst_replaceIn puts children s]
  | .text _, _ => rfl
  | .comment _, _ => rfl
  | .raw _, _ => rfl

/-- A replacement that reports puts in what a substitution does. -/
theorem fst_replaceIn (puts : ∀ e s, (step e s).1 = f e) :
    ∀ (nodes : List Node) (s : List α), (replaceIn p step nodes s).1 = substituteIn p f nodes
  | [], _ => rfl
  | n :: nodes, s => by
      rw [replaceIn, substituteIn, fst_replace puts n, fst_replaceIn puts nodes]

end

mutual

theorem snd_replace (reports : ∀ e s, (step e s).2 = s ++ notes e)
    (codeOnly : ∀ e, p e = true → e.isCodeBlock) :
    ∀ (n : Node) (s : List α), (n.replace p step s).2 =
      s ++ n.collect Element.isOutsideCode (fun e => if p e then notes e else [])
  | .element tag attrs children, s => by
      rw [replace, collect]
      by_cases passes : p ⟨tag, attrs, children⟩ = true
      · have code : Element.isOutsideCode ⟨tag, attrs, children⟩ = false := by
          rw [Element.isOutsideCode, codeOnly _ passes]
          rfl
        rw [if_pos passes, if_pos passes, code, reports]
        simp
      · rw [if_neg passes, if_neg passes]
        by_cases code : tag = "pre"
        · simp [code, Element.isOutsideCode, Element.isCodeBlock]
        · have below := snd_replaceIn reports codeOnly children s
          simpa [code, Element.isOutsideCode, Element.isCodeBlock] using below
  | .text _, s => (List.append_nil s).symm
  | .comment _, s => (List.append_nil s).symm
  | .raw _, s => (List.append_nil s).symm

/-- A replacement of code blocks reports what there is to say about each of them. -/
theorem snd_replaceIn (reports : ∀ e s, (step e s).2 = s ++ notes e)
    (codeOnly : ∀ e, p e = true → e.isCodeBlock) :
    ∀ (nodes : List Node) (s : List α), (replaceIn p step nodes s).2 =
      s ++ collectIn Element.isOutsideCode (fun e => if p e then notes e else []) nodes
  | [], s => (List.append_nil s).symm
  | n :: nodes, s => by
      rw [replaceIn, collectIn, snd_replaceIn reports codeOnly nodes,
        snd_replace reports codeOnly n, List.append_assoc]

end

mutual

theorem snd_replace_of_keeps {σ : Type} {step : Element → σ → List Node × σ}
    (keeps : ∀ e s, (step e s).2 = s) : ∀ (n : Node) (s : σ), (n.replace p step s).2 = s
  | .element tag attrs children, s => by
      rw [replace]
      split
      · exact keeps _ s
      · split
        · rfl
        · exact snd_replaceIn_of_keeps keeps children s
  | .text _, _ => rfl
  | .comment _, _ => rfl
  | .raw _, _ => rfl

/-- A replacement whose steps keep the state keeps it. -/
theorem snd_replaceIn_of_keeps {σ : Type} {step : Element → σ → List Node × σ}
    (keeps : ∀ e s, (step e s).2 = s) :
    ∀ (nodes : List Node) (s : σ), (replaceIn p step nodes s).2 = s
  | [], _ => rfl
  | n :: nodes, s => by
      rw [replaceIn, snd_replaceIn_of_keeps keeps nodes, snd_replace_of_keeps keeps n]

end

end Replacement

/-! ## Two substitutions -/

section Two

/-- Two substitutions that do not get in each other's way: no element passes both tests, and
neither finds anything to replace in what the other puts in. -/
structure Independent (p : Element → Bool) (f : Element → List Node) (q : Element → Bool)
    (g : Element → List Node) : Prop where
  firstTest : Element.IgnoresChildren p
  firstNodes : Element.IgnoresChildren f
  secondTest : Element.IgnoresChildren q
  secondNodes : Element.IgnoresChildren g
  disjoint : ∀ e, p e = true → ¬ q e = true
  firstFree : ∀ e, p e = true → substituteIn q g (f e) = f e
  secondFree : ∀ e, q e = true → substituteIn p f (g e) = g e

variable {p q : Element → Bool} {f g : Element → List Node}

mutual

theorem substitute_comm (independent : Independent p f q g) : ∀ n : Node,
    substituteIn q g (n.substitute p f) = substituteIn p f (n.substitute q g)
  | .element tag attrs children => by
      have pSame := independent.firstTest tag attrs children (substituteIn q g children)
      have qSame := independent.secondTest tag attrs children (substituteIn p f children)
      by_cases first : p ⟨tag, attrs, children⟩ = true
      · -- What `p` puts in stays, and on the other side `p` still passes after `q` has gone by.
        have second := independent.disjoint _ first
        rw [substitute_of_passes first, independent.firstFree _ first]
        by_cases code : tag = "pre"
        · rw [substitute_of_code second code, substituteIn_singleton, substitute_of_passes first]
        · rw [substitute_of_proper second code, substituteIn_singleton,
            substitute_of_passes (pSame ▸ first), independent.firstNodes tag attrs children]
      · by_cases second : q ⟨tag, attrs, children⟩ = true
        · rw [substitute_of_passes second, independent.secondFree _ second]
          by_cases code : tag = "pre"
          · rw [substitute_of_code first code, substituteIn_singleton,
              substitute_of_passes second]
          · rw [substitute_of_proper first code, substituteIn_singleton,
              substitute_of_passes (qSame ▸ second), independent.secondNodes tag attrs children]
        · by_cases code : tag = "pre"
          · rw [substitute_of_code first code, substitute_of_code second code,
              substituteIn_singleton, substituteIn_singleton, substitute_of_code first code,
              substitute_of_code second code]
          · rw [substitute_of_proper first code, substitute_of_proper second code,
              substituteIn_singleton, substituteIn_singleton,
              substitute_of_proper (qSame ▸ second) code, substitute_of_proper (pSame ▸ first) code,
              substituteIn_comm independent children]
  | .text _ => rfl
  | .comment _ => rfl
  | .raw _ => rfl

/-- Independent substitutions can be made in either order. -/
theorem substituteIn_comm (independent : Independent p f q g) : ∀ nodes : List Node,
    substituteIn q g (substituteIn p f nodes) = substituteIn p f (substituteIn q g nodes)
  | [] => rfl
  | n :: nodes => by
      rw [substituteIn, substituteIn, substituteIn_append, substituteIn_append,
        substitute_comm independent n, substituteIn_comm independent nodes]

end

end Two

section InTurn

variable {p q : Element → Bool} {f g : Element → List Node}

mutual

theorem substituteIn_substitute_of_code (firstCode : ∀ e, p e = true → e.isCodeBlock)
    (secondCode : ∀ e, q e = true → e.isCodeBlock) : ∀ n : Node,
    substituteIn q g (n.substitute p f) =
      n.substitute (fun e => p e || q e) (fun e => if p e then substituteIn q g (f e) else g e)
  | .element tag attrs children => by
      by_cases first : p ⟨tag, attrs, children⟩ = true
      · rw [substitute_of_passes first, substitute_of_passes (by rw [first]; rfl), if_pos first]
      · rw [Bool.not_eq_true] at first
        by_cases code : tag = "pre"
        · subst code
          rw [substitute_of_code (by simp [first]) rfl, substituteIn_singleton, substitute,
            substitute, first]
          rfl
        · have second := not_passes_of_proper secondCode code attrs
          rw [substitute_of_proper (by simp [first]) code, substituteIn_singleton,
            substitute_of_proper (second _) code,
            substitute_of_proper (by simp [first, second]) code,
            substituteIn_substituteIn_of_code firstCode secondCode children]
  | .text _ => rfl
  | .comment _ => rfl
  | .raw _ => rfl

/-- Two replacements of code blocks are one: the second finds the blocks that the first has left,
and those in what the first has put in. -/
theorem substituteIn_substituteIn_of_code (firstCode : ∀ e, p e = true → e.isCodeBlock)
    (secondCode : ∀ e, q e = true → e.isCodeBlock) : ∀ nodes : List Node,
    substituteIn q g (substituteIn p f nodes) =
      substituteIn (fun e => p e || q e) (fun e => if p e then substituteIn q g (f e) else g e)
        nodes
  | [] => rfl
  | n :: nodes => by
      rw [substituteIn, substituteIn_append, substituteIn,
        substituteIn_substitute_of_code firstCode secondCode n,
        substituteIn_substituteIn_of_code firstCode secondCode nodes]

end

end InTurn

section Agreement

variable {p q : Element → Bool} {f g : Element → List Node}

mutual

theorem substitute_congr : ∀ n : Node,
    (∀ e ∈ n.collect Element.isOutsideCode (fun e => [e]),
      q e = p e ∧ (p e = true → g e = f e)) →
      n.substitute q g = n.substitute p f
  | .element tag attrs children, agree => by
      rw [collect] at agree
      rcases agree _ (List.mem_append_left _ (List.mem_singleton.mpr rfl)) with
        ⟨sameTest, sameNodes⟩
      by_cases passes : p ⟨tag, attrs, children⟩ = true
      · rw [substitute_of_passes passes, substitute_of_passes (sameTest.trans passes),
          sameNodes passes]
      · have fails : ¬ q ⟨tag, attrs, children⟩ = true := sameTest ▸ passes
        by_cases code : tag = "pre"
        · rw [substitute_of_code passes code, substitute_of_code fails code]
        · have entered : Element.isOutsideCode ⟨tag, attrs, children⟩ = true := by
            simp [Element.isOutsideCode, Element.isCodeBlock, code]
          rw [if_pos entered] at agree
          rw [substitute_of_proper passes code, substitute_of_proper fails code,
            substituteIn_congr children fun e member => agree e (List.mem_append_right _ member)]
  | .text _, _ => rfl
  | .comment _, _ => rfl
  | .raw _, _ => rfl

/-- Replacements are the same if they agree on the elements outside code. -/
theorem substituteIn_congr : ∀ nodes : List Node,
    (∀ e ∈ collectIn Element.isOutsideCode (fun e => [e]) nodes,
      q e = p e ∧ (p e = true → g e = f e)) →
      substituteIn q g nodes = substituteIn p f nodes
  | [], _ => rfl
  | n :: nodes, agree => by
      rw [collectIn] at agree
      rw [substituteIn, substituteIn,
        substitute_congr n fun e member => agree e (List.mem_append_left _ member),
        substituteIn_congr nodes fun e member => agree e (List.mem_append_right _ member)]

end

end Agreement

/-! ## What is left to collect -/

section Collection

variable {α : Type} {p : Element → Bool} {f : Element → List Node} {view : Element → List α}

mutual

theorem collectIn_substitute_of_code
    (same : ∀ tag attrs first second, tag ≠ "pre" →
      view ⟨tag, attrs, first⟩ = view ⟨tag, attrs, second⟩) : ∀ n : Node,
    collectIn Element.isOutsideCode view (n.substitute p f) =
      n.collect (fun e => e.isOutsideCode && !p e)
        (fun e => if p e then collectIn Element.isOutsideCode view (f e) else view e)
  | .element tag attrs children => by
      rw [collect]
      by_cases passes : p ⟨tag, attrs, children⟩ = true
      · rw [substitute_of_passes passes]
        simp [passes]
      · by_cases code : tag = "pre"
        · subst code
          rw [substitute_of_code passes rfl, collectIn_singleton, collect]
          simp [passes, Element.isOutsideCode, Element.isCodeBlock]
        · have below := collectIn_substituteIn_of_code same children
          rw [substitute_of_proper passes code, collectIn_singleton, collect, below,
            same tag attrs _ children code]
          simp [passes, code, Element.isOutsideCode, Element.isCodeBlock]
  | .text _ => rfl
  | .comment _ => rfl
  | .raw _ => rfl

/-- What a walk collects after a substitution, if of the elements that it goes below it reads the
tag and the attributes only: in the place of a replaced element, what it collects in what has been
put in. -/
theorem collectIn_substituteIn_of_code
    (same : ∀ tag attrs first second, tag ≠ "pre" →
      view ⟨tag, attrs, first⟩ = view ⟨tag, attrs, second⟩) :
    ∀ nodes : List Node, collectIn Element.isOutsideCode view (substituteIn p f nodes) =
      collectIn (fun e => e.isOutsideCode && !p e)
        (fun e => if p e then collectIn Element.isOutsideCode view (f e) else view e) nodes
  | [] => rfl
  | n :: nodes => by
      rw [substituteIn, collectIn_append, collectIn, collectIn_substitute_of_code same n,
        collectIn_substituteIn_of_code same nodes]

end

/-- After a substitution that puts in nothing to collect, a walk collects what stands outside the
replaced elements. -/
theorem collectIn_substituteIn (viewIgnores : Element.IgnoresChildren view)
    (nothing : ∀ e, p e = true → collectIn Element.isOutsideCode view (f e) = [])
    (nodes : List Node) : collectIn Element.isOutsideCode view (substituteIn p f nodes) =
      collectIn (fun e => e.isOutsideCode && !p e) (fun e => if p e then [] else view e) nodes := by
  have empty : (fun e => if p e then collectIn Element.isOutsideCode view (f e) else view e) =
      fun e => if p e then [] else view e := by
    funext e
    split
    · next passes => exact nothing e passes
    · rfl
  rw [collectIn_substituteIn_of_code fun tag attrs first second _ =>
    viewIgnores tag attrs first second, empty]

/-- After code blocks have been removed, a walk collects what stands in the others and outside. -/
theorem collectIn_remove (codeOnly : ∀ e, p e = true → e.isCodeBlock)
    (viewIgnores : Element.IgnoresChildren view) (nodes : List Node) :
    collectIn Element.isOutsideCode view (substituteIn p (fun _ => []) nodes) =
      collectIn Element.isOutsideCode (fun e => if p e then [] else view e) nodes := by
  rw [collectIn_substituteIn viewIgnores (fun _ _ => rfl), Element.isOutsideCode_and_not codeOnly]

end Collection

section Paths

variable {α : Type} (enter p : Element → Bool) (view : Element → Option α)

mutual

theorem filterMap_paths : ∀ n : Node,
    (n.paths enter p).filterMap (fun path => ((n.nodeAt? path).bind element?).bind view) =
      n.collect enter (fun e => if p e then (view e).toList else [])
  | .element tag attrs children => by
      rw [paths, collect, List.filterMap_append]
      congr 1
      · by_cases passes : p ⟨tag, attrs, children⟩ = true
        · rw [if_pos passes, if_pos passes]
          cases seen : view ⟨tag, attrs, children⟩ <;> simp [element?, seen]
        · rw [if_neg passes, if_neg passes]
          rfl
      · by_cases entered : enter ⟨tag, attrs, children⟩ = true
        · rw [if_pos entered, if_pos entered, ← filterMap_pathsFrom [] children]
          apply List.filterMap_congr
          intro path listed
          rcases mem_pathsFrom_iff.mp listed with ⟨k, n, rest, -, rfl, -⟩
          rfl
        · rw [if_neg entered, if_neg entered]
          rfl
  | .text _ => rfl
  | .comment _ => rfl
  | .raw _ => rfl

/-- What a walk collects stands at the paths that it lists.  The walk counts from the siblings
`front` that it has left behind. -/
theorem filterMap_pathsFrom : ∀ front nodes : List Node,
    (pathsFrom enter p front.length nodes).filterMap
        (fun path => ((nodeAtIn? path (front ++ nodes)).bind element?).bind view) =
      collectIn enter (fun e => if p e then (view e).toList else []) nodes
  | _, [] => rfl
  | front, n :: nodes => by
      have later := filterMap_pathsFrom (front ++ [n]) nodes
      have here := filterMap_paths n
      rw [List.length_append, List.append_assoc] at later
      rw [pathsFrom, collectIn, List.filterMap_append, List.filterMap_map]
      congr 1
      · rw [← here]
        congr 1
        funext path
        simp [nodeAtIn?]

end

end Paths

end Node

end Markup

open Markup

namespace Document

/-- What is read off the elements at the paths that a walk lists. -/
theorem filterMap_at?_pathsFrom {α : Type} (d : Document) (enter p : Element → Bool)
    (view : Element → Option α) :
    (Node.pathsFrom enter p 0 d.children).filterMap (fun path => (d.at? path).bind view) =
      Node.collectIn enter (fun e => if p e then (view e).toList else []) d.children := by
  rw [← Node.filterMap_pathsFrom enter p view [] d.children]
  apply List.filterMap_congr
  intro path listed
  rcases Node.mem_pathsFrom_iff.mp listed with ⟨k, n, rest, -, rfl, -⟩
  rw [at?_eq_nodeAt?]
  rfl

/-- Leaving out what stands in some elements is not going below them. -/
theorem filter_ancestors_pathsOutsideCode (d : Document) (p stop : Element → Bool)
    (atRoot : stop d.root = false) :
    (d.pathsOutsideCode p).filter (fun path => !(d.ancestors path).any stop) =
      Node.pathsFrom (fun e => e.isOutsideCode && !stop e) p 0 d.children := by
  have ordered : (d.pathsOutsideCode p).Pairwise (· < ·) :=
    Node.pairwise_pathsFrom _ p 0 d.children
  refine (ordered.filter _).eq_of_mem_iff (Node.pairwise_pathsFrom _ p 0 d.children) ?_
  intro path
  change path ∈ (d.pathsOutsideCode p).filter _ ↔ path ∈ Node.pathsFrom _ p 0 d.root.children
  rw [List.mem_filter, mem_pathsOutsideCode_iff, Bool.not_eq_true', List.any_eq_false,
    Element.mem_pathsFrom_iff]
  constructor
  · rintro ⟨⟨nonempty, found, outside⟩, clear⟩
    refine ⟨nonempty, found, ?_⟩
    intro front c isFront below proper atFront
    have entered := outside front c isFront below proper atFront
    have passed := clear c (Element.mem_ancestors_iff.mpr ⟨front, isFront, proper, atFront⟩)
    rw [Bool.and_eq_true, Bool.not_eq_true']
    exact ⟨entered, Bool.not_eq_true _ ▸ passed⟩
  · rintro ⟨nonempty, found, reaches⟩
    refine ⟨⟨nonempty, found, ?_⟩, ?_⟩
    · intro front c isFront below proper atFront
      have entered := reaches front c isFront below proper atFront
      exact (Bool.and_eq_true_iff.mp entered).1
    · intro c member
      rcases Element.mem_ancestors_iff.mp member with ⟨front, isFront, proper, atFront⟩
      by_cases below : front = []
      · subst below
        have same : d.root = c := Option.some.inj atFront
        rw [← same, atRoot]
        exact Bool.false_ne_true
      · have entered := reaches front c isFront below proper atFront
        simpa using (Bool.and_eq_true_iff.mp entered).2

end Document

end Folio
