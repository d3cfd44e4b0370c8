import Folio.Page.Outline
import Folio.Proofs.Markup.Place

namespace Folio

open Markup

/-!
# Outlines as walks

The outline of a page is made by recursion over its sections.  It is told here as a walk that keeps
the elements around the one that it has come to: the outline in pre-order, each entry with the
entries around it, is read off the stops of a walk that goes below listed sections only.  The stops
of a walk are also what stands at the paths that it lists, which ties an entry to its place in the
page.
-/

namespace Markup

/-- An element that a walk has come to, with the elements around it, outermost first. -/
structure Stop where
  around : List Element
  element : Element

namespace Node

mutual

/-- The elements with a property that a walk comes to, in document order.  The walk goes below an
element only if it passes `enter`. -/
def stops (enter p : Element → Bool) (around : List Element) : Node → List Stop
  | .element tag attrs children =>
    (if p ⟨tag, attrs, children⟩ then [⟨around, ⟨tag, attrs, children⟩⟩] else []) ++
      (if enter ⟨tag, attrs, children⟩ then
        stopsIn enter p (around ++ [⟨tag, attrs, children⟩]) children
      else [])
  | _ => []

def stopsIn (enter p : Element → Bool) (around : List Element) : List Node → List Stop
  | [] => []
  | n :: ns => n.stops enter p around ++ stopsIn enter p around ns

end

end Node

/-- The stop at a path below an element. -/
def Element.stopAt? (around : List Element) (e : Element) (path : TreePath) : Option Stop :=
  (e.at? path).map fun c => ⟨around ++ e.ancestors path, c⟩

theorem Element.stopAt?_cons (around : List Element) (e : Element) (i : Nat) (path : TreePath) :
    e.stopAt? around (i :: path) =
      (e.child? i).bind fun c => c.stopAt? (around ++ [e]) path := by
  rw [stopAt?, at?_cons, ancestors]
  cases e.child? i with
  | none => rfl
  | some c => simp [stopAt?]

namespace Node

variable {enter p : Element → Bool}

mutual

theorem filterMap_stopAt?_paths : ∀ (n : Node) (around : List Element),
    (n.paths enter p).filterMap (fun path => n.element?.bind fun e => e.stopAt? around path) =
      n.stops enter p around
  | .element tag attrs children, around => by
      rw [paths, stops, List.filterMap_append]
      congr 1
      · split
        · simp [element?, Element.stopAt?, Element.at?, Element.ancestors]
        · rfl
      · split
        · exact filterMap_stopAt?_pathsFrom children ⟨tag, attrs, children⟩ around [] rfl
        · rfl
  | .text _, _ => rfl
  | .comment _, _ => rfl
  | .raw _, _ => rfl

/-- The paths that a walk lists lead to its stops.  The walk counts from the children `front` of `e`
that it has left behind. -/
theorem filterMap_stopAt?_pathsFrom : ∀ (nodes : List Node) (e : Element) (around : List Element)
    (front : List Node), e.children = front ++ nodes →
      (pathsFrom enter p front.length nodes).filterMap (e.stopAt? around) =
        stopsIn enter p (around ++ [e]) nodes
  | [], _, _, _, _ => rfl
  | n :: nodes, e, around, front, divided => by
      have later := filterMap_stopAt?_pathsFrom nodes e around (front ++ [n])
        (by rw [divided, List.append_assoc]; rfl)
      have child : e.child? front.length = n.element? := Element.child?_of_divided divided
      rw [List.length_append] at later
      rw [pathsFrom, stopsIn, List.filterMap_append, List.filterMap_map]
      congr 1
      rw [← filterMap_stopAt?_paths n (around ++ [e])]
      congr 1
      funext path
      rw [Function.comp_apply, Element.stopAt?_cons, child]

end

mutual

theorem stops_sublist {enter' : Element → Bool} (weaker : ∀ e, enter e = true → enter' e = true) :
    ∀ (n : Node) (around : List Element),
      (n.stops enter p around).Sublist (n.stops enter' p around)
  | .element tag attrs children, around => by
      rw [stops, stops]
      apply (List.Sublist.refl _).append
      split
      · next entered =>
          rw [if_pos (weaker _ entered)]
          exact stopsIn_sublist weaker children _
      · exact List.nil_sublist _
  | .text _, _ => List.Sublist.refl _
  | .comment _, _ => List.Sublist.refl _
  | .raw _, _ => List.Sublist.refl _

/-- A walk that goes below more elements comes to the same stops, and to others between them. -/
theorem stopsIn_sublist {enter' : Element → Bool} (weaker : ∀ e, enter e = true → enter' e = true) :
    ∀ (nodes : List Node) (around : List Element),
      (stopsIn enter p around nodes).Sublist (stopsIn enter' p around nodes)
  | [], _ => List.Sublist.refl _
  | n :: nodes, around =>
      (stops_sublist weaker n around).append (stopsIn_sublist weaker nodes around)

end

mutual

theorem entered_of_mem_stops : ∀ (n : Node) (around : List Element) (s : Stop),
    s ∈ n.stops enter p around →
      p s.element = true ∧ ∃ below, s.around = around ++ below ∧ ∀ a ∈ below, enter a = true
  | .element tag attrs children, around, s, member => by
      rw [stops] at member
      rcases List.mem_append.mp member with here | below
      · split at here
        · next passes =>
            rw [List.mem_singleton.mp here]
            exact ⟨passes, [], by simp, by simp⟩
        · cases here
      · split at below
        · next entered =>
            rcases entered_of_mem_stopsIn children _ s below with ⟨passes, rest, same, inside⟩
            refine ⟨passes, ⟨tag, attrs, children⟩ :: rest, by simp [same], ?_⟩
            intro a member
            rcases List.mem_cons.mp member with rfl | later
            · exact entered
            · exact inside a later
        · cases below
  | .text _, _, _, member => by cases member
  | .comment _, _, _, member => by cases member
  | .raw _, _, _, member => by cases member

/-- What stands around a stop has been entered. -/
theorem entered_of_mem_stopsIn : ∀ (nodes : List Node) (around : List Element) (s : Stop),
    s ∈ stopsIn enter p around nodes →
      p s.element = true ∧ ∃ below, s.around = around ++ below ∧ ∀ a ∈ below, enter a = true
  | [], _, _, member => by cases member
  | n :: nodes, around, s, member => by
      rw [stopsIn] at member
      rcases List.mem_append.mp member with here | later
      · exact entered_of_mem_stops n around s here
      · exact entered_of_mem_stopsIn nodes around s later

end

end Node

end Markup

/-! ## The entries of an outline -/

namespace OutlineEntry

mutual

/-- The identifiers that an outline entry names, its own first. -/
def anchors : OutlineEntry → List String
  | entry _ anchor sections => anchor :: anchorsIn sections

def anchorsIn : List OutlineEntry → List String
  | [] => []
  | e :: es => e.anchors ++ anchorsIn es

end

mutual

/-- The entries of an outline in pre-order, each with the entries around it, outermost first. -/
def trails (around : List OutlineEntry) : OutlineEntry → List (List OutlineEntry × OutlineEntry)
  | entry heading anchor sections =>
    (around, entry heading anchor sections) ::
      trailsIn (around ++ [entry heading anchor sections]) sections

def trailsIn (around : List OutlineEntry) :
    List OutlineEntry → List (List OutlineEntry × OutlineEntry)
  | [] => []
  | e :: es => e.trails around ++ trailsIn around es

end

mutual

theorem map_anchor_trails : ∀ (e : OutlineEntry) (around : List OutlineEntry),
    (e.trails around).map (fun t => t.2.anchor) = e.anchors
  | entry heading anchor sections, around => by
      rw [trails, anchors, List.map_cons, map_anchor_trailsIn sections]
      rfl

theorem map_anchor_trailsIn : ∀ (entries : List OutlineEntry) (around : List OutlineEntry),
    (trailsIn around entries).map (fun t => t.2.anchor) = anchorsIn entries
  | [], _ => rfl
  | e :: entries, around => by
      rw [trailsIn, anchorsIn, List.map_append, map_anchor_trails e, map_anchor_trailsIn entries]

end

theorem trailsIn_append (around first second : List OutlineEntry) :
    trailsIn around (first ++ second) = trailsIn around first ++ trailsIn around second := by
  induction first with
  | nil => rfl
  | cons e first inductionHypothesis =>
      rw [List.cons_append, trailsIn, trailsIn, inductionHypothesis, List.append_assoc]

/-- The entry that an outline has for an element that it lists. -/
def ofElement (e : Element) : OutlineEntry :=
  entry (headingOf e.children) (e.id?.getD "") (ofNodes e.children)

/-- Whether an outline that comes to an element lists it. -/
def isListed (e : Element) : Bool := e.tag == "section" && e.id?.isSome

theorem ofNode_element (tag : String) (attrs : Dict String) (children : List Node) :
    ofNode (.element tag attrs children) =
      if isListed ⟨tag, attrs, children⟩ then [ofElement ⟨tag, attrs, children⟩] else [] := by
  rw [ofNode, isListed]
  by_cases isSection : tag = "section"
  · subst isSection
    cases own : Element.id? ⟨"section", attrs, children⟩ with
    | none => rfl
    | some id => simp [ofElement, own]
  · simp [isSection]

/-- The entry of a stop, with the entries of what is around it. -/
def trailOf (s : Stop) : List OutlineEntry × OutlineEntry :=
  (s.around.map ofElement, ofElement s.element)

mutual

theorem trailsIn_ofNode : ∀ (n : Node) (around : List Element),
    trailsIn (around.map ofElement) (ofNode n) =
      (n.stops isListed isListed around).map trailOf
  | .element tag attrs children, around => by
      rw [ofNode_element, Node.stops]
      split
      · next listed =>
          have below := trailsIn_ofNodes children (around ++ [⟨tag, attrs, children⟩])
          rw [List.map_append] at below
          rw [trailsIn, trailsIn, List.append_nil, List.map_append, ← below]
          rfl
      · rfl
  | .text _, _ => rfl
  | .comment _, _ => rfl
  | .raw _, _ => rfl

/-- The outline of a tree in pre-order is what a walk below listed sections comes to. -/
theorem trailsIn_ofNodes : ∀ (nodes : List Node) (around : List Element),
    trailsIn (around.map ofElement) (ofNodes nodes) =
      (Node.stopsIn isListed isListed around nodes).map trailOf
  | [], _ => rfl
  | n :: nodes, around => by
      rw [ofNodes, trailsIn_append, Node.stopsIn, List.map_append, trailsIn_ofNode n,
        trailsIn_ofNodes nodes]

end

end OutlineEntry

namespace Document

/-- The sections that the outline of a page lists, in document order. -/
def listedSections (d : Document) : List Stop :=
  Node.stopsIn OutlineEntry.isListed OutlineEntry.isListed [d.root] d.children

theorem map_trailOf_listedSections (d : Document) :
    d.listedSections.map OutlineEntry.trailOf =
      OutlineEntry.trailsIn [.ofElement d.root] d.outline :=
  (OutlineEntry.trailsIn_ofNodes d.children [d.root]).symm

/-- The identifiers that an outline names are those of the listed sections. -/
theorem map_anchor_listedSections (d : Document) :
    d.listedSections.map (fun s => (OutlineEntry.ofElement s.element).anchor) =
      OutlineEntry.anchorsIn d.outline := by
  rw [← OutlineEntry.map_anchor_trailsIn d.outline [.ofElement d.root],
    ← d.map_trailOf_listedSections, List.map_map]
  rfl

theorem exists_around_of_mem_listedSections {d : Document} {s : Stop}
    (member : s ∈ d.listedSections) :
    OutlineEntry.isListed s.element = true ∧
      ∃ sections, s.around = d.root :: sections ∧
        ∀ a ∈ sections, OutlineEntry.isListed a = true :=
  Node.entered_of_mem_stopsIn d.children [d.root] s member

/-- A listed section stands at a place in the page. -/
theorem exists_path_of_mem_listedSections {d : Document} {s : Stop}
    (member : s ∈ d.listedSections) :
    ∃ path, d.at? path = some s.element ∧ d.ancestors path = s.around := by
  rw [listedSections, ← List.nil_append [d.root],
    ← Node.filterMap_stopAt?_pathsFrom d.children d.root [] [] rfl] at member
  rcases List.mem_filterMap.mp member with ⟨path, -, stopped⟩
  rcases Option.map_eq_some_iff.mp stopped with ⟨e, atPath, rfl⟩
  exact ⟨path, atPath, (List.nil_append _).symm⟩

end Document

end Folio
