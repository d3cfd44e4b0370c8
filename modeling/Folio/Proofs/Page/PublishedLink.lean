import Folio.Proofs.Page.ExampleCode

namespace Folio

open Markup

/-!
# What publishing links changes

Publishing goes through a whole document, code blocks and headings included, and writes the address
of every link to another page.  Its effect is told here place by place: the label of a place, its
tag, its attributes or its text, is another one only where such a link stands, and there it differs
in the address.  A published address begins at the root of the site, so no link that is written is
one to another page any more, and a second pass finds nothing to do.
-/

namespace Url

theorem exists_published_eq (url : String) :
    ∃ cs, published url = String.ofList ('/' :: cs) := by
  rw [published]
  split
  · next page place _ => exact ⟨page ++ '/' :: place, rfl⟩
  · refine ⟨url.toList, ?_⟩
    rw [← String.toList_inj, String.toList_append, String.toList_ofList]
    simp

/-- A published address begins at the root of the site, whatever it was made from. -/
theorem isRelative_published (url : String) : isRelative (published url) = false := by
  rcases exists_published_eq url with ⟨cs, fromRoot⟩
  rw [fromRoot, isRelative, String.toList_ofList]
  rfl

theorem isInternal_published (url : String) : isInternal (published url) = false := by
  rw [isInternal, isRelative_published, Bool.false_and]

end Url

theorem isInternalLink_publishAttrs (tag : String) (attrs : Dict String) (children : List Node) :
    isInternalLink ⟨tag, publishAttrs tag attrs, children⟩ = false := by
  cases isLink : isInternalLink ⟨tag, attrs, children⟩ with
  | false =>
      rw [(publishAttrs_eq_self_iff tag attrs children).mpr isLink]
      exact isLink
  | true =>
      rcases exists_publishAttrs_eq_insert isLink with ⟨href, -, -, written⟩
      rw [isInternalLink, Element.attr?, written, Table.get?_insert_self, Option.any_some,
        Url.isInternal_published, Bool.and_false]

namespace Markup

/-- A label with its attributes published. -/
def NodeLabel.publishAttrs : NodeLabel → NodeLabel
  | .element tag attrs size => .element tag (Folio.publishAttrs tag attrs) size
  | label => label

namespace Node

/-- At every place stands what stood there, with its links published. -/
theorem nodeAt?_publishLinks (path : TreePath) (n : Node) :
    n.publishLinks.nodeAt? path = (n.nodeAt? path).map publishLinks := by
  induction path generalizing n with
  | nil => simp
  | cons i path inductionHypothesis =>
      cases n with
      | element tag attrs children =>
          rw [publishLinks, nodeAt?_cons_element, nodeAt?_cons_element, publishLinksIn_eq_map,
            List.getElem?_map]
          cases children[i]? with
          | none => rfl
          | some child => exact inductionHypothesis child
      | text s => rfl
      | comment s => rfl
      | raw markup => rfl

theorem label_publishLinks (n : Node) : n.publishLinks.label = n.label.publishAttrs := by
  cases n with
  | element tag attrs children =>
      rw [publishLinks, label, label, publishLinksIn_eq_map, List.length_map,
        NodeLabel.publishAttrs]
  | text s => rfl
  | comment s => rfl
  | raw markup => rfl

mutual

theorem find?_publishLinks : ∀ n : Node, n.publishLinks.find? isInternalLink = none
  | .element tag attrs children => by
      rw [publishLinks, find?, isInternalLink_publishAttrs, if_neg Bool.false_ne_true]
      exact findIn?_publishLinksIn children
  | .text _ => rfl
  | .comment _ => rfl
  | .raw _ => rfl

/-- Publishing leaves no link to another page. -/
theorem findIn?_publishLinksIn : ∀ nodes : List Node,
    findIn? isInternalLink (publishLinksIn nodes) = none
  | [] => rfl
  | n :: nodes => by
      rw [publishLinksIn, findIn?, find?_publishLinks n, Option.none_or]
      exact findIn?_publishLinksIn nodes

end

theorem publishLinksIn_publishLinksIn (nodes : List Node) :
    publishLinksIn (publishLinksIn nodes) = publishLinksIn nodes :=
  (publishLinksIn_eq_self_iff _).mpr (findIn?_publishLinksIn nodes)

end Node

end Markup

namespace Document

/-- The root of a document is no link, so publishing a document is publishing its root. -/
theorem toNode_root_publishLinks (d : Document) :
    d.publishLinks.root.toNode = d.root.toNode.publishLinks := rfl

theorem labelAt?_publishLinks (d : Document) (path : TreePath) :
    d.publishLinks.labelAt? path = (d.labelAt? path).map NodeLabel.publishAttrs := by
  rw [labelAt?, labelAt?, toNode_root_publishLinks, Node.labelAt?, Node.labelAt?,
    Node.nodeAt?_publishLinks, Option.map_map, Option.map_map]
  congr 1
  funext n
  exact n.label_publishLinks

/-- Where no link to another page stands, nothing changes. -/
theorem labelAt?_publishLinks_of_not_link {d : Document} {path : TreePath}
    (noLink : ∀ e, d.at? path = some e → isInternalLink e = false) :
    d.publishLinks.labelAt? path = d.labelAt? path := by
  rw [labelAt?_publishLinks]
  cases atPath : d.labelAt? path with
  | none => rfl
  | some label =>
      cases label with
      | element tag attrs size =>
          rcases labelAt?_eq_some_iff.mp atPath with ⟨e, found, rfl, rfl, -⟩
          rw [Option.map_some, NodeLabel.publishAttrs,
            (publishAttrs_eq_self_iff e.tag e.attrs e.children).mpr (noLink e found)]
      | text s => rfl
      | comment s => rfl
      | raw markup => rfl

/-- Where a link to another page stands, its address is published. -/
theorem labelAt?_publishLinks_of_link {d : Document} {path : TreePath} {e : Element}
    (atPath : d.at? path = some e) (isLink : isInternalLink e = true) :
    ∃ href, e.attr? "href" = some href ∧ Url.isInternal href = true ∧
      d.publishLinks.labelAt? path = some
        (.element e.tag (e.attrs.insert "href" (Url.published href)) e.children.length) := by
  rcases exists_publishAttrs_eq_insert isLink with ⟨href, address, isInternal, written⟩
  refine ⟨href, address, isInternal, ?_⟩
  rw [labelAt?_publishLinks, labelAt?_eq_some_iff.mpr ⟨e, atPath, rfl, rfl, rfl⟩, Option.map_some,
    NodeLabel.publishAttrs, written]

theorem publishLinks_publishLinks (d : Document) :
    d.publishLinks.publishLinks = d.publishLinks := by
  rw [publishLinks, publishLinks, Node.publishLinksIn_publishLinksIn]

/-- Publishing changes the addresses of links to other pages, and nothing else in a document.  What
it writes begins at the root of the site, so publishing twice is publishing once. -/
theorem publishLinks_changes_only_addresses (d : Document) :
    (∀ path, (∀ e, d.at? path = some e → isInternalLink e = false) →
      d.publishLinks.labelAt? path = d.labelAt? path) ∧
    (∀ path e, d.at? path = some e → isInternalLink e = true →
      ∃ href, e.attr? "href" = some href ∧
        d.publishLinks.labelAt? path = some
          (.element e.tag (e.attrs.insert "href" (Url.published href)) e.children.length) ∧
        Url.isRelative (Url.published href) = false) ∧
    d.publishLinks.publishLinks = d.publishLinks := by
  refine ⟨fun path noLink => labelAt?_publishLinks_of_not_link noLink, ?_,
    d.publishLinks_publishLinks⟩
  intro path e atPath isLink
  rcases labelAt?_publishLinks_of_link atPath isLink with ⟨href, address, -, written⟩
  exact ⟨href, address, written, Url.isRelative_published href⟩

end Document

end Folio
