import Folio.Proofs.Markup.Substitution

namespace Folio
namespace Markup

/-!
# Replacement at paths

A replacement takes a page apart and puts it together again, and asks what to put in as it goes.  A
walk over the same page only lists paths, and it goes on below an element that it has listed.  Both
see the same elements: those that are replaced stand at the listed paths that lead through no other
listed path.

So a replacement can be told in three steps that do not know of each other: which elements are
outermost, what is answered when these are asked about in document order, and the page with the
answers in their places.
-/

/-- Of some paths those that lead through no other one of them. -/
def outermostPaths (paths : List TreePath) : List TreePath :=
  paths.filter fun path => ∀ other ∈ paths, other <+: path → other = path

/-- Ask a function that keeps a state about some elements, one after the other.  The answers are
kept with the paths of the elements. -/
def askInTurn {σ : Type} (f : Element → σ → List Node × σ) :
    List (TreePath × Element) → σ → List (TreePath × List Node) × σ
  | [], s => ([], s)
  | call :: calls, s =>
    let answer := f call.2 s
    let later := askInTurn f calls answer.2
    ((call.1, answer.1) :: later.1, later.2)

namespace Node

mutual

/-- Put nodes in the places that they are given for by paths from a node; all others stay. -/
def put (given : TreePath → Option (List Node)) : Node → List Node
  | .element tag attrs children =>
    (given []).getD [.element tag attrs (putIn given 0 children)]
  | .text s => (given []).getD [.text s]
  | .comment s => (given []).getD [.comment s]
  | .raw markup => (given []).getD [.raw markup]

/-- The same for a list of siblings, the first of which stands at position `i`. -/
def putIn (given : TreePath → Option (List Node)) : Nat → List Node → List Node
  | _, [] => []
  | i, n :: ns => n.put (fun path => given (i :: path)) ++ putIn given (i + 1) ns

end

mutual

/-- The elements that a replacement asks about, with their paths from a node. -/
def asked (p : Element → Bool) : Node → List (TreePath × Element)
  | .element tag attrs children =>
    if p ⟨tag, attrs, children⟩ then [([], ⟨tag, attrs, children⟩)]
    else if tag = "pre" then []
    else askedIn p 0 children
  | _ => []

/-- The same for a list of siblings, the first of which stands at position `i`. -/
def askedIn (p : Element → Bool) : Nat → List Node → List (TreePath × Element)
  | _, [] => []
  | i, n :: ns => (n.asked p).map (fun call => (i :: call.1, call.2)) ++ askedIn p (i + 1) ns

end

end Node

section Turns

variable {σ : Type} (f : Element → σ → List Node × σ)

theorem askInTurn_append (first second : List (TreePath × Element)) (s : σ) :
    askInTurn f (first ++ second) s =
      ((askInTurn f first s).1 ++ (askInTurn f second (askInTurn f first s).2).1,
        (askInTurn f second (askInTurn f first s).2).2) := by
  induction first generalizing s with
  | nil => rfl
  | cons call first inductionHypothesis =>
      rw [List.cons_append, askInTurn, inductionHypothesis]
      rfl

theorem askInTurn_map_cons (i : Nat) (calls : List (TreePath × Element)) (s : σ) :
    askInTurn f (calls.map fun call => (i :: call.1, call.2)) s =
      ((askInTurn f calls s).1.map fun answer => (i :: answer.1, answer.2),
        (askInTurn f calls s).2) := by
  induction calls generalizing s with
  | nil => rfl
  | cons call calls inductionHypothesis =>
      rw [List.map_cons, askInTurn, inductionHypothesis]
      rfl

theorem map_fst_askInTurn (calls : List (TreePath × Element)) (s : σ) :
    (askInTurn f calls s).1.map Prod.fst = calls.map Prod.fst := by
  induction calls generalizing s with
  | nil => rfl
  | cons call calls inductionHypothesis =>
      rw [askInTurn, List.map_cons, List.map_cons, inductionHypothesis]

/-- A function that also notes down what it is asked about. -/
def recording (e : Element) (r : σ × List Element) : List Node × (σ × List Element) :=
  ((f e r.1).1, ((f e r.1).2, r.2 ++ [e]))

theorem snd_askInTurn_recording (calls : List (TreePath × Element)) (r : σ × List Element) :
    (askInTurn (recording f) calls r).2.2 = r.2 ++ calls.map Prod.snd := by
  induction calls generalizing r with
  | nil => exact (List.append_nil _).symm
  | cons call calls inductionHypothesis =>
      rw [askInTurn, inductionHypothesis, List.map_cons]
      exact List.append_assoc _ _ _

end Turns

section Lookup

variable {α : Type}

theorem lookup_map_cons_self (i : Nat) (path : TreePath) (l : List (TreePath × α)) :
    (l.map fun e => (i :: e.1, e.2)).lookup (i :: path) = l.lookup path := by
  induction l with
  | nil => rfl
  | cons e l inductionHypothesis =>
      rw [List.map_cons, List.lookup_cons, List.lookup_cons, inductionHypothesis]
      simp

theorem lookup_map_cons_of_ne {i k : Nat} (different : k ≠ i) (path : TreePath)
    (l : List (TreePath × α)) :
    (l.map fun e => (i :: e.1, e.2)).lookup (k :: path) = none := by
  rw [List.lookup_eq_none_iff]
  intro e member
  rcases List.mem_map.mp member with ⟨e, -, rfl⟩
  simp [different]

end Lookup

namespace Node

variable {p : Element → Bool}

theorem exists_of_mem_askedIn {i : Nat} {nodes : List Node} {call : TreePath × Element}
    (member : call ∈ askedIn p i nodes) :
    ∃ k n below, nodes[k]? = some n ∧ below ∈ n.asked p ∧ call = ((i + k) :: below.1, below.2) := by
  induction nodes generalizing i with
  | nil => cases member
  | cons n nodes inductionHypothesis =>
      rw [askedIn, List.mem_append, List.mem_map] at member
      rcases member with ⟨below, listed, rfl⟩ | later
      · exact ⟨0, n, below, rfl, listed, rfl⟩
      · rcases inductionHypothesis later with ⟨k, m, below, atPlace, listed, rfl⟩
        exact ⟨k + 1, m, below, atPlace, listed, by rw [Nat.add_right_comm, Nat.add_assoc]⟩

/-- What a replacement asks about is an element of the page as it is. -/
theorem element?_of_mem_asked {n : Node} : ∀ {call : TreePath × Element}, call ∈ n.asked p →
    (n.nodeAt? call.1).bind element? = some call.2 := by
  induction n with
  | element tag attrs children inductionHypothesis =>
      intro call member
      rw [asked] at member
      split at member
      · rw [List.mem_singleton] at member
        subst member
        rfl
      · split at member
        · cases member
        · rcases exists_of_mem_askedIn member with ⟨k, n, below, atPlace, listed, rfl⟩
          rw [Nat.zero_add, nodeAt?_cons_element, atPlace]
          exact inductionHypothesis n (List.mem_of_getElem? atPlace) listed
  | text s => intro call member; cases member
  | comment s => intro call member; cases member
  | raw markup => intro call member; cases member

mutual

theorem map_fst_asked : ∀ n : Node, (n.asked p).map Prod.fst =
    n.paths (fun e => e.isOutsideCode && !p e) p
  | .element tag attrs children => by
      rw [asked, paths]
      by_cases passes : p ⟨tag, attrs, children⟩ = true
      · simp [passes]
      · rw [if_neg passes, if_neg passes]
        by_cases code : tag = "pre"
        · simp [code, Element.isOutsideCode, Element.isCodeBlock]
        · have entered : ((Element.isOutsideCode ⟨tag, attrs, children⟩) &&
              !p ⟨tag, attrs, children⟩) = true := by
            simp [passes, code, Element.isOutsideCode, Element.isCodeBlock]
          rw [if_neg code, if_pos entered, List.nil_append, map_fst_askedIn 0 children]
  | .text _ => rfl
  | .comment _ => rfl
  | .raw _ => rfl

/-- A replacement asks about the elements at the paths of a walk that does not go below an element
that it has listed. -/
theorem map_fst_askedIn : ∀ (i : Nat) (nodes : List Node), (askedIn p i nodes).map Prod.fst =
    pathsFrom (fun e => e.isOutsideCode && !p e) p i nodes
  | _, [] => rfl
  | i, n :: nodes => by
      rw [askedIn, pathsFrom, List.map_append, List.map_map, map_fst_askedIn (i + 1) nodes,
        ← map_fst_asked n, List.map_map]
      rfl

end

mutual

theorem put_of_none {given : TreePath → Option (List Node)} (nothing : ∀ path, given path = none) :
    ∀ n : Node, n.put given = [n]
  | .element tag attrs children => by
      rw [put, nothing, putIn_of_none nothing 0 children]
      rfl
  | .text _ => by
      rw [put, nothing]
      rfl
  | .comment _ => by
      rw [put, nothing]
      rfl
  | .raw _ => by
      rw [put, nothing]
      rfl

/-- Where nothing is given everything stays. -/
theorem putIn_of_none {given : TreePath → Option (List Node)}
    (nothing : ∀ path, given path = none) : ∀ (i : Nat) (nodes : List Node),
    putIn given i nodes = nodes
  | _, [] => rfl
  | i, n :: nodes => by
      rw [putIn, put_of_none (fun path => nothing (i :: path)) n,
        putIn_of_none nothing (i + 1) nodes]
      rfl

end

/-! ## A replacement in three steps -/

section Replacement

variable {σ : Type} {f : Element → σ → List Node × σ}

/-- There is no answer at a path that does not lead into the siblings that are asked about. -/
theorem lookup_askedIn_eq_none {i : Nat} {path : TreePath}
    (apart : ∀ k rest, i ≤ k → path ≠ k :: rest) (nodes : List Node) (s : σ) :
    (askInTurn f (askedIn p i nodes) s).1.lookup path = none := by
  rw [List.lookup_eq_none_iff]
  intro answer member
  have listed : answer.1 ∈ (askedIn p i nodes).map Prod.fst :=
    map_fst_askInTurn f _ s ▸ List.mem_map_of_mem member
  rcases List.mem_map.mp listed with ⟨call, isCall, samePath⟩
  rcases exists_of_mem_askedIn isCall with ⟨k, n, below, -, -, rfl⟩
  rw [← samePath, bne_iff_ne]
  exact apart (i + k) below.1 (Nat.le_add_right i k)

mutual

theorem replace_eq_put : ∀ (n : Node) (s : σ) (given : TreePath → Option (List Node)),
    (∀ path, given path = (askInTurn f (n.asked p) s).1.lookup path) →
      n.replace p f s = (n.put given, (askInTurn f (n.asked p) s).2)
  | .element tag attrs children, s, given, answered => by
      rw [asked] at answered ⊢
      rw [replace]
      by_cases passes : p ⟨tag, attrs, children⟩ = true
      · rw [if_pos passes] at answered ⊢
        rw [if_pos passes, put, answered]
        rfl
      · rw [if_neg passes] at answered ⊢
        rw [if_neg passes]
        by_cases code : tag = "pre"
        · rw [if_pos code] at answered ⊢
          rw [if_pos code, put_of_none answered]
          rfl
        · rw [if_neg code] at answered ⊢
          have below := replaceIn_eq_putIn 0 children s given fun k path _ => answered (k :: path)
          have stays : given [] = none :=
            (answered []).trans (lookup_askedIn_eq_none (by simp) children s)
          rw [if_neg code, put, stays, below]
          rfl
  | .text _, _, _, answered => by
      rw [put, answered]
      rfl
  | .comment _, _, _, answered => by
      rw [put, answered]
      rfl
  | .raw _, _, _, answered => by
      rw [put, answered]
      rfl

/-- A replacement puts in what is answered when it asks in turn. -/
theorem replaceIn_eq_putIn : ∀ (i : Nat) (nodes : List Node) (s : σ)
    (given : TreePath → Option (List Node)),
    (∀ k path, i ≤ k →
      given (k :: path) = (askInTurn f (askedIn p i nodes) s).1.lookup (k :: path)) →
      replaceIn p f nodes s =
        (putIn given i nodes, (askInTurn f (askedIn p i nodes) s).2)
  | _, [], _, _, _ => rfl
  | i, n :: nodes, s, given, answered => by
      rw [askedIn, askInTurn_append, askInTurn_map_cons] at answered ⊢
      have inFront : ∀ path k (rest : TreePath), i + 1 ≤ k → i :: path ≠ k :: rest := by
        intro path k rest behind same
        have := (List.cons.inj same).1
        omega
      have here := replace_eq_put n s (fun path => given (i :: path)) (by
        intro path
        rw [answered i path (Nat.le_refl i), List.lookup_append, lookup_map_cons_self,
          lookup_askedIn_eq_none (inFront path), Option.or_none])
      have later := replaceIn_eq_putIn (i + 1) nodes (askInTurn f (n.asked p) s).2 given (by
          intro k path behind
          rw [answered k path (by omega), List.lookup_append, lookup_map_cons_of_ne (by omega),
            Option.none_or])
      rw [replaceIn, here, later, putIn]

end

mutual

theorem fst_replace_itself {note : Element → σ → σ} : ∀ (n : Node) (s : σ),
    (n.replace p (fun e s => ([e.toNode], note e s)) s).1 = [n]
  | .element tag attrs children, s => by
      rw [replace]
      split
      · rfl
      · split
        · rfl
        · change [element tag attrs (replaceIn p _ children s).1] = _
          rw [fst_replaceIn_itself children s]
  | .text _, _ => rfl
  | .comment _, _ => rfl
  | .raw _, _ => rfl

/-- A replacement of elements by themselves leaves everything as it is. -/
theorem fst_replaceIn_itself {note : Element → σ → σ} : ∀ (nodes : List Node) (s : σ),
    (replaceIn p (fun e s => ([e.toNode], note e s)) nodes s).1 = nodes
  | [], _ => rfl
  | n :: nodes, s => by
      rw [replaceIn, fst_replace_itself n, fst_replaceIn_itself nodes]
      rfl

end

end Replacement

end Node

end Markup

/-! ## Outermost elements of a document -/

open Markup

theorem Markup.mem_outermostPaths_iff {paths : List TreePath} {path : TreePath} :
    path ∈ outermostPaths paths ↔
      path ∈ paths ∧ ∀ other ∈ paths, other <+: path → other = path := by
  rw [outermostPaths, List.mem_filter, decide_eq_true_iff]

namespace Document

/-- The elements outside code that pass a test and stand in no other such element, with their
paths. -/
def outermost (d : Document) (p : Element → Bool) : List (TreePath × Element) :=
  (outermostPaths (d.pathsOutsideCode p)).filterMap fun path => (d.at? path).map fun e => (path, e)

theorem outermostPaths_pathsOutsideCode (d : Document) (p : Element → Bool) :
    outermostPaths (d.pathsOutsideCode p) =
      Node.pathsFrom (fun e => e.isOutsideCode && !p e) p 0 d.children := by
  have ordered := d.pairwise_pathsOutsideCode p
  refine (ordered.filter _).eq_of_mem_iff (Node.pairwise_pathsFrom _ p 0 d.children) ?_
  intro path
  change path ∈ outermostPaths _ ↔ path ∈ Node.pathsFrom _ p 0 d.root.children
  rw [mem_outermostPaths_iff, mem_pathsOutsideCode_iff, Element.mem_pathsFrom_iff]
  constructor
  · rintro ⟨⟨nonempty, found, outside⟩, outermost⟩
    refine ⟨nonempty, found, ?_⟩
    intro front c isFront below proper atFront
    have fails : p c = false := by
      rw [← Bool.not_eq_true]
      intro passes
      have listed := mem_pathsOutsideCode_iff.mpr
        ⟨below, ⟨c, atFront, passes⟩, outside.of_prefix isFront⟩
      exact proper (outermost front listed isFront)
    have entered := outside front c isFront below proper atFront
    exact Bool.and_eq_true_iff.mpr ⟨entered, by rw [fails, Bool.not_false]⟩
  · rintro ⟨nonempty, found, reaches⟩
    refine ⟨⟨nonempty, found, ?_⟩, ?_⟩
    · intro front c isFront below proper atFront
      exact (Bool.and_eq_true_iff.mp (reaches front c isFront below proper atFront)).1
    · intro other listed isFront
      rcases mem_pathsOutsideCode_iff.mp listed with ⟨below, ⟨c, atOther, passes⟩, -⟩
      by_contra proper
      have fails := (Bool.and_eq_true_iff.mp (reaches other c isFront below proper atOther)).2
      rw [passes] at fails
      cases fails

theorem at?_of_mem_askedIn {d : Document} {p : Element → Bool} {call : TreePath × Element}
    (member : call ∈ Node.askedIn p 0 d.children) : d.at? call.1 = some call.2 := by
  rw [at?_eq_nodeAt?]
  rcases Node.exists_of_mem_askedIn member with ⟨k, n, below, atPlace, listed, rfl⟩
  rw [nodeAt?, root, Element.toNode, Nat.zero_add, Node.nodeAt?_cons_element, atPlace]
  exact Node.element?_of_mem_asked listed

theorem outermost_eq (d : Document) (p : Element → Bool) :
    d.outermost p = Node.askedIn p 0 d.children := by
  rw [outermost, outermostPaths_pathsOutsideCode, ← Node.map_fst_askedIn, List.filterMap_map]
  conv_rhs => rw [← List.filterMap_some (l := Node.askedIn p 0 d.children)]
  apply List.filterMap_congr
  intro call member
  rw [Function.comp_apply, at?_of_mem_askedIn member]
  rfl

/-- A replacement asks about the elements of a page that are listed for the test and lead through no
other listed one, in document order, each of them once and as it stands in the page.  What it makes
is the page with the answers in the places of these elements and everything else as it was.  If each
element is replaced by itself, the page stays. -/
theorem replaceIn_outermost (d : Document) (p : Element → Bool) {σ : Type}
    (f : Element → σ → List Node × σ) (s : σ) :
    (d.outermost p).map Prod.fst = outermostPaths (d.pathsOutsideCode p) ∧
      Node.replaceIn p f d.children s =
        (Node.putIn (fun path => (askInTurn f (d.outermost p) s).1.lookup path) 0 d.children,
          (askInTurn f (d.outermost p) s).2) ∧
      (Node.replaceIn p (recording f) d.children (s, [])).2.2 = (d.outermost p).map Prod.snd ∧
      ∀ note : Element → σ → σ,
        (Node.replaceIn p (fun e s => ([e.toNode], note e s)) d.children s).1 = d.children := by
  rw [outermost_eq]
  refine ⟨?_, ?_, ?_, ?_⟩
  · rw [Node.map_fst_askedIn, outermostPaths_pathsOutsideCode]
  · exact Node.replaceIn_eq_putIn 0 d.children s _ fun _ _ _ => rfl
  · let answers := (askInTurn (recording f) (Node.askedIn p 0 d.children) (s, [])).1
    rw [Node.replaceIn_eq_putIn 0 d.children (s, []) (List.lookup · answers) fun _ _ _ => rfl]
    exact snd_askInTurn_recording f _ (s, [])
  · exact fun note => Node.fst_replaceIn_itself d.children s

end Document

end Folio
