import Folio.Page.Document
import Folio.Proofs.Markup.Printing
import Folio.Proofs.Markup.Unescape
import Mathlib.Data.List.Chain

namespace Folio
namespace Markup

/-!
# The print of a tree is read back

Printing loses nothing of a tree of elements and texts, as long as the tree has a print of its own:
no two texts stand side by side, nothing stands in an element without content, and names hold no
character that markup ends them with.  This is shown by a reader.  It cuts markup into tags and
texts, decodes references, drops a line feed right behind the start tags that have browsers drop
one, and puts the pieces together with a stack of open elements.  It knows nothing of the rules by
which pages nest, so it reads trees that a page could not hold.
-/

/-- White space, and the characters that markup ends names with. -/
def nameDelimiters : List Char := ['\t', '\n', '\x0c', ' ', '=', '"', '/', '<', '>']

/-- Whether a name can be told from what is printed around it. -/
def IsPlainName (name : String) : Prop := name ≠ "" ∧ ∀ c ∈ name.toList, c ∉ nameDelimiters

instance (name : String) : Decidable (IsPlainName name) :=
  decidable_of_iff (name ≠ "" ∧ name.toList.all (!nameDelimiters.contains ·) = true)
    (by simp [IsPlainName])

theorem IsPlainName.not_mem {name : String} (plain : IsPlainName name) {c : Char}
    (delimiter : c ∈ nameDelimiters) : c ∉ name.toList :=
  fun member => plain.2 c member delimiter

/-- The usual names of tags are plain. -/
theorem IsPlainName.of_letters {name : String} (nonempty : name ≠ "")
    (letters : (name.toList.all fun c => c.isLower || c.isDigit || c == '-') = true) :
    IsPlainName name := by
  have others : (nameDelimiters.all fun c => !(c.isLower || c.isDigit || c == '-')) = true := by
    decide
  refine ⟨nonempty, fun c member delimiter => ?_⟩
  have letter := List.all_eq_true.mp letters c member
  have noLetter := List.all_eq_true.mp others c delimiter
  rw [letter] at noLetter
  cases noLetter

def Node.isText : Node → Bool
  | .text _ => true
  | _ => false

/-- Whether a tree consists of elements and texts that can be told apart in print. -/
inductive Node.Legible : Node → Prop where
  | element {tag : String} {attrs : Dict String} {children : List Node}
      (name : IsPlainName tag) (names : ∀ name ∈ attrs.keys, IsPlainName name)
      (escaped : rawTextTags.contains tag = false)
      (empty : voidTags.contains tag = true → children = [])
      (apart : children.IsChain fun first second => ¬ (first.isText ∧ second.isText))
      (below : ∀ child ∈ children, child.Legible) : Node.Legible (.element tag attrs children)
  | text {s : String} (nonempty : s ≠ "") : Node.Legible (.text s)

/-! ## The reader -/

/-- What markup is cut into. -/
inductive Piece where
  | startTag (tag : String) (attrs : List (String × String))
  | endTag (tag : String)
  | text (text : String)

/-- Where the reader stands.  What it has read of a text or of a tag is collected last character
first. -/
inductive Spot where
  | text (read : List Char)
  | tag (read : List Char)
  /-- Behind a start tag that a line feed is dropped after. -/
  | lineFeed

/-- The attributes of a tag, which has been cut at its quotes. -/
def attributesOf : List (List Char) → List (String × String)
  | name :: value :: rest =>
    (String.ofList ((name.drop 1).takeWhile (· != '=')), String.ofList (decodeValue value)) ::
      attributesOf rest
  | _ => []

/-- The tag that stands between two angle brackets. -/
def tagOf (cs : List Char) : Piece :=
  if cs.head? = some '/' then .endTag (String.ofList cs.tail)
  else
    .startTag (String.ofList (cs.takeWhile (· != ' ')))
      (attributesOf ((cs.dropWhile (· != ' ')).splitOn '"'))

/-- A text, if there is any. -/
def textOf (cs : List Char) : List Piece :=
  if cs = [] then [] else [.text (String.ofList (decodeText cs))]

/-- Where the reader stands behind a tag. -/
def spotAfter : Piece → Spot
  | .startTag tag _ => if lineFeedTags.contains tag then .lineFeed else .text []
  | _ => .text []

/-- Cut markup into tags and texts; a tag that the end cuts off is dropped. -/
def pieces : Spot → List Char → List Piece
  | .text read, [] => textOf read.reverse
  | .text read, c :: cs =>
    if c = '<' then textOf read.reverse ++ pieces (.tag []) cs else pieces (.text (c :: read)) cs
  | .tag _, [] => []
  | .tag read, c :: cs =>
    if c = '>' then tagOf read.reverse :: pieces (spotAfter (tagOf read.reverse)) cs
    else pieces (.tag (c :: read)) cs
  | .lineFeed, [] => []
  | .lineFeed, c :: cs =>
    if c = '\n' then pieces (.text []) cs
    else if c = '<' then pieces (.tag []) cs
    else pieces (.text [c]) cs

/-- An element whose end tag is still to come, with the siblings before it, last first. -/
structure OpenElement where
  tag : String
  attrs : Dict String
  earlier : List Node

/-- Put pieces together to a tree.  The innermost open element comes first, and so does the last of
the nodes that have been read in it. -/
def assemble : List OpenElement → List Node → List Piece → Option (List Node)
  | [], nodes, [] => some nodes.reverse
  | _ :: _, _, [] => none
  | opened, nodes, .text s :: rest => assemble opened (.text s :: nodes) rest
  | opened, nodes, .startTag tag attrs :: rest =>
    if once : (attrs.map Prod.fst).Nodup then
      if voidTags.contains tag then assemble opened (.element tag ⟨attrs, once⟩ [] :: nodes) rest
      else assemble (⟨tag, ⟨attrs, once⟩, nodes⟩ :: opened) [] rest
    else none
  | [], _, .endTag _ :: _ => none
  | e :: opened, nodes, .endTag tag :: rest =>
    if tag = e.tag then assemble opened (.element e.tag e.attrs nodes.reverse :: e.earlier) rest
    else none

theorem pieces_text {cs : List Char} (plain : '<' ∉ cs) (read rest : List Char) :
    pieces (.text read) (cs ++ '<' :: rest) =
      textOf (read.reverse ++ cs) ++ pieces (.tag []) rest := by
  induction cs generalizing read with
  | nil => rw [List.nil_append, pieces, if_pos rfl, List.append_nil]
  | cons c cs inductionHypothesis =>
      rw [List.mem_cons, not_or] at plain
      rw [List.cons_append, pieces, if_neg (Ne.symm plain.1), inductionHypothesis plain.2,
        List.reverse_cons, List.append_assoc]
      rfl

theorem pieces_tag {cs : List Char} (plain : '>' ∉ cs) (read rest : List Char) :
    pieces (.tag read) (cs ++ '>' :: rest) =
      tagOf (read.reverse ++ cs) :: pieces (spotAfter (tagOf (read.reverse ++ cs))) rest := by
  induction cs generalizing read with
  | nil => rw [List.nil_append, pieces, if_pos rfl, List.append_nil]
  | cons c cs inductionHypothesis =>
      rw [List.mem_cons, not_or] at plain
      rw [List.cons_append, pieces, if_neg (Ne.symm plain.1), inductionHypothesis plain.2,
        List.reverse_cons, List.append_assoc]
      rfl

/-- A line feed is dropped; behind anything else the reader goes on as in a text. -/
theorem pieces_lineFeed {cs : List Char} (other : cs.head? ≠ some '\n') :
    pieces .lineFeed cs = pieces (.text []) cs := by
  cases cs with
  | nil => rfl
  | cons c cs =>
      have noLineFeed : c ≠ '\n' := fun same => other (congrArg some same)
      simp only [pieces, if_neg noLineFeed]
      rfl

/-- A scan up to a character stops where the text goes on with that character or ends. -/
theorem scan_append {cs rest : List Char} {c : Char} (plain : c ∉ cs)
    (stop : ∀ x, rest.head? = some x → x = c) :
    (cs ++ rest).takeWhile (· != c) = cs ∧ (cs ++ rest).dropWhile (· != c) = rest := by
  have passes : ∀ x ∈ cs, (x != c) = true := by
    intro x member
    have different : x ≠ c := fun same => plain (same ▸ member)
    simpa using different
  rw [List.takeWhile_append_of_pos passes, List.dropWhile_append_of_pos passes]
  cases rest with
  | nil => simp
  | cons x rest =>
      rw [stop x rfl]
      simp

theorem attributesOf_attributeText {attrs : List (String × String)}
    (names : ∀ a ∈ attrs, IsPlainName a.1) :
    attributesOf ((attrs.flatMap fun a => attributeText a.1 a.2).splitOn '"') = attrs := by
  induction attrs with
  | nil => rfl
  | cons a attrs inductionHypothesis =>
      have plain := names a List.mem_cons_self
      have later := inductionHypothesis fun b member => names b (List.mem_cons_of_mem a member)
      have quoteless : '"' ∉ ' ' :: (a.1.toList ++ ['=']) := by
        simp [plain.not_mem (c := '"') (by decide)]
      have cut : (a :: attrs).flatMap (fun a => attributeText a.1 a.2) =
          (' ' :: (a.1.toList ++ ['='])) ++ '"' :: (escapeValueList a.2.toList ++
            '"' :: attrs.flatMap fun a => attributeText a.1 a.2) := by
        simp [attributeText]
      have equalless : '=' ∉ a.1.toList := plain.not_mem (by decide)
      have name : (a.1.toList ++ ['=']).takeWhile (· != '=') = a.1.toList :=
        (scan_append equalless (by simp)).1
      rw [cut, List.splitOn_append_cons_self_of_not_mem quoteless,
        List.splitOn_append_cons_self_of_not_mem (quote_not_mem_escapeValueList _), attributesOf,
        later, decodeValue_escapeValueList, List.drop_succ_cons, List.drop_zero, name]
      simp

theorem IsPlainName.exists_cons {name : String} (plain : IsPlainName name) :
    ∃ c rest, name.toList = c :: rest ∧ c ≠ '/' := by
  cases chars : name.toList with
  | nil => exact absurd (String.toList_eq_nil_iff.mp chars) plain.1
  | cons c rest =>
      refine ⟨c, rest, rfl, ?_⟩
      rintro rfl
      exact plain.not_mem (c := '/') (by decide) (by rw [chars]; exact List.mem_cons_self)

/-- A start tag, as it is printed, is read as what it was printed from. -/
theorem tagOf_openTag {tag : String} {attrs : List (String × String)} (name : IsPlainName tag)
    (names : ∀ a ∈ attrs, IsPlainName a.1) :
    tagOf (tag.toList ++ attrs.flatMap fun a => attributeText a.1 a.2) = .startTag tag attrs := by
  have spaceless : ' ' ∉ tag.toList := name.not_mem (by decide)
  have stop : ∀ x, (attrs.flatMap fun a => attributeText a.1 a.2).head? = some x → x = ' ' := by
    intro x begins
    cases attrs with
    | nil => cases begins
    | cons a attrs => exact (Option.some.inj begins).symm
  have parts := scan_append spaceless stop
  have start : (tag.toList ++ attrs.flatMap fun a => attributeText a.1 a.2).head? ≠ some '/' := by
    rcases name.exists_cons with ⟨c, rest, chars, noSlash⟩
    rw [chars, List.cons_append, List.head?_cons]
    exact fun same => noSlash (Option.some.inj same)
  rw [tagOf, if_neg start, parts.1, parts.2, attributesOf_attributeText names,
    String.ofList_toList]

/-- The reader finds a printed start tag, and goes on behind it. -/
theorem pieces_printStart {tag : String} {attrs : Dict String} (name : IsPlainName tag)
    (names : ∀ a ∈ attrs.entries, IsPlainName a.1) (rest : List Char) :
    pieces (.text []) ((printStart tag attrs).toList ++ rest) =
      .startTag tag attrs.entries :: pieces (spotAfter (.startTag tag attrs.entries)) rest := by
  have plain : '>' ∉ openTag tag attrs.entries :=
    greater_not_mem_openTag (name.not_mem (by decide)) fun a listed =>
      (names a listed).not_mem (by decide)
  have body := pieces_tag (List.not_mem_of_not_mem_cons plain) [] rest
  rw [List.reverse_nil, List.nil_append, tagOf_openTag name names] at body
  rw [toList_printStart, openTag, List.append_assoc, List.cons_append, List.singleton_append,
    pieces, if_pos rfl, body]
  rfl

theorem pieces_endTag {tag : String} (name : IsPlainName tag) (rest : List Char) :
    pieces (.text []) (("</" ++ tag ++ ">").toList ++ rest) =
      .endTag tag :: pieces (.text []) rest := by
  have plain : '>' ∉ '/' :: tag.toList := by
    simp [name.not_mem (c := '>') (by decide)]
  have body := pieces_tag plain [] rest
  have read : tagOf ('/' :: tag.toList) = .endTag tag := by
    rw [tagOf, if_pos List.head?_cons, List.tail_cons, String.ofList_toList]
  rw [List.reverse_nil, List.nil_append, read] at body
  rw [toList_endTag_append, pieces, if_pos rfl, body]
  rfl

/-! ## Putting a print together -/

/-- Whether a text goes on with markup. -/
def BeginsMarkup (cs : List Char) : Prop := cs.head? = some '<'

namespace Node

theorem beginsMarkup_print {n : Node} (legible : n.Legible) (element : ¬ n.isText)
    (rest : List Char) :
    BeginsMarkup ((n.print false).toList ++ rest) := by
  cases legible with
  | text nonempty => exact absurd rfl element
  | @element tag attrs children =>
      rcases prefix_print false tag attrs children with ⟨behind, whole⟩
      rw [← whole, toList_printStart]
      rfl

theorem beginsMarkup_printAll {nodes : List Node} (legible : ∀ n ∈ nodes, n.Legible)
    (element : ∀ n, nodes.head? = some n → ¬ n.isText) {rest : List Char}
    (markup : BeginsMarkup rest) :
    BeginsMarkup ((printAll false nodes).toList ++ rest) := by
  cases nodes with
  | nil => exact markup
  | cons n nodes =>
      rw [printAll, String.toList_append, List.append_assoc]
      exact beginsMarkup_print (legible n List.mem_cons_self) (element n rfl) _

/-- The reader takes in a print of siblings if it takes in that of each. -/
theorem assemble_printAll_of {nodes : List Node} (legible : ∀ n ∈ nodes, n.Legible)
    (apart : nodes.IsChain fun first second => ¬ (first.isText ∧ second.isText))
    (each : ∀ n ∈ nodes, ∀ opened done rest, (n.isText → BeginsMarkup rest) →
      assemble opened done (pieces (.text []) ((n.print false).toList ++ rest)) =
        assemble opened (n :: done) (pieces (.text []) rest))
    (opened : List OpenElement) (done : List Node) {rest : List Char}
    (markup : BeginsMarkup rest) :
    assemble opened done (pieces (.text []) ((printAll false nodes).toList ++ rest)) =
      assemble opened (nodes.reverse ++ done) (pieces (.text []) rest) := by
  induction nodes generalizing done with
  | nil => rfl
  | cons n nodes inductionHypothesis =>
      have later : ∀ m ∈ nodes, m.Legible :=
        fun m member => legible m (List.mem_cons_of_mem n member)
      have next : n.isText → BeginsMarkup ((printAll false nodes).toList ++ rest) := by
        intro isText
        apply beginsMarkup_printAll later _ markup
        intro m first both
        cases nodes with
        | nil => cases first
        | cons second nodes =>
            rw [← Option.some.inj first] at both
            exact (List.isChain_cons_cons.mp apart).1 ⟨isText, both⟩
      rw [printAll, String.toList_append, List.append_assoc,
        each n List.mem_cons_self opened done _ next,
        inductionHypothesis later apart.tail
          (fun m member => each m (List.mem_cons_of_mem n member)),
        List.reverse_cons, List.append_assoc]
      rfl

theorem textOf_escapeTextList {s : String} (nonempty : s ≠ "") :
    textOf (escapeTextList s.toList) = [.text s] := by
  rw [textOf, if_neg (escapeTextList_ne_nil nonempty), decodeText_escapeTextList,
    String.ofList_toList]

/-- The print of children begins with a line feed only where the printer puts one in front. -/
theorem head?_printAll_ne_lineFeed {tag : String} {children : List Node}
    (lineFeeds : lineFeedTags.contains tag = true) (needless : needsLineFeed tag children = false)
    (legible : ∀ n ∈ children, n.Legible) {rest : List Char} (markup : BeginsMarkup rest) :
    ((printAll false children).toList ++ rest).head? ≠ some '\n' := by
  intro begins
  by_cases text : ∃ s siblings, children = .text s :: siblings
  · rcases text with ⟨s, siblings, rfl⟩
    cases legible _ List.mem_cons_self with
    | text nonempty =>
        have filled : escapeTextList s.toList ≠ [] := by
          intro empty
          have read := textOf_escapeTextList nonempty
          rw [empty] at read
          cases read
        have first : (escapeTextList s.toList).head? = some '\n' := by
          rw [printAll, String.toList_append, List.append_assoc] at begins
          change ((escapeText s).toList ++ _).head? = _ at begins
          rwa [escapeText, String.toList_ofList, List.head?_append_of_ne_nil _ filled] at begins
        have needed := head?_escapeTextList (by decide) first
        rw [needsLineFeed, lineFeeds, needed] at needless
        cases needless
  · have element : ∀ n, children.head? = some n → ¬ n.isText := by
      intro n first isText
      cases n with
      | text s =>
          rcases List.head?_eq_some_iff.mp first with ⟨siblings, rfl⟩
          exact text ⟨s, siblings, rfl⟩
      | element tag attrs children => cases isText
      | comment s => cases isText
      | raw markup => cases isText
    rw [beginsMarkup_printAll legible element markup] at begins
    exact absurd begins (by decide)

/-- Behind a start tag the reader drops the line feed that the printer has put in, and no other. -/
theorem pieces_spotAfter {tag : String} {children : List Node}
    (legible : ∀ n ∈ children, n.Legible) (attrs : List (String × String)) {rest : List Char}
    (markup : BeginsMarkup rest) :
    pieces (spotAfter (.startTag tag attrs))
        ((if needsLineFeed tag children then "\n" else "").toList ++
          ((printAll false children).toList ++ rest)) =
      pieces (.text []) ((printAll false children).toList ++ rest) := by
  by_cases lineFeeds : lineFeedTags.contains tag = true
  · rw [spotAfter, if_pos lineFeeds]
    cases needed : needsLineFeed tag children with
    | true => rfl
    | false => exact pieces_lineFeed (head?_printAll_ne_lineFeed lineFeeds needed legible markup)
  · have needless : needsLineFeed tag children = false := by
      unfold needsLineFeed
      split
      · rw [Bool.not_eq_true] at lineFeeds
        rw [lineFeeds, Bool.false_and]
      · rfl
    rw [spotAfter, if_neg lineFeeds, needless]
    rfl

/-- An element without content is none that a line feed is dropped in. -/
theorem lineFeedTags_of_voidTags {tag : String} (isVoid : voidTags.contains tag = true) :
    lineFeedTags.contains tag = false := by
  have apart : ∀ tag ∈ voidTags, lineFeedTags.contains tag = false := by decide
  exact apart tag (List.contains_iff_mem.mp isVoid)

/-- The reader takes in the print of a tree, whatever it has read before and whatever follows. -/
theorem assemble_print {n : Node} (legible : n.Legible) :
    ∀ (opened : List OpenElement) (done : List Node) (rest : List Char),
      (n.isText → BeginsMarkup rest) →
        assemble opened done (pieces (.text []) ((n.print false).toList ++ rest)) =
          assemble opened (n :: done) (pieces (.text []) rest) := by
  induction legible with
  | @text s nonempty =>
      intro opened done rest markup
      rcases List.head?_eq_some_iff.mp (markup rfl) with ⟨behind, rfl⟩
      change assemble opened done (pieces _ ((escapeText s).toList ++ _)) = _
      rw [escapeText, String.toList_ofList, pieces_text (less_not_mem_escapeTextList _),
        List.reverse_nil, List.nil_append, textOf_escapeTextList nonempty, List.singleton_append,
        assemble, pieces, if_pos rfl]
      rfl
  | @element tag attrs children name names escaped empty apart below inductionHypothesis =>
      intro opened done rest _
      have attrNames : ∀ a ∈ attrs.entries, IsPlainName a.1 :=
        fun a member => names a.1 (List.mem_map_of_mem member)
      by_cases isVoid : voidTags.contains tag = true
      · have noLineFeed : lineFeedTags.contains tag = false :=
          lineFeedTags_of_voidTags isVoid
        rw [print_of_void false isVoid, pieces_printStart name attrNames, assemble,
          dif_pos attrs.nodup, if_pos isVoid, empty isVoid, spotAfter, noLineFeed]
        rfl
      · have markup : BeginsMarkup (("</" ++ tag ++ ">").toList ++ rest) := by
          rw [String.toList_append, String.toList_append]
          rfl
        have printed : ((element tag attrs children).print false).toList ++ rest =
            (printStart tag attrs).toList ++
              ((if needsLineFeed tag children then "\n" else "").toList ++
                ((printAll false children).toList ++ (("</" ++ tag ++ ">").toList ++ rest))) := by
          rw [toList_print_of_shown false isVoid, escaped]
          simp only [List.append_assoc]
        rw [printed, pieces_printStart name attrNames, assemble, dif_pos attrs.nodup,
          if_neg isVoid, pieces_spotAfter below _ markup,
          assemble_printAll_of below apart inductionHypothesis _ _ markup, pieces_endTag name,
          assemble, if_pos rfl]
        simp

end Node

end Markup

open Markup

namespace Document

/-- Whether a document has a print of its own. -/
def Legible (d : Document) : Prop := d.root.toNode.Legible

/-- The document that markup is the print of, if it is one of a legible document. -/
def readBack (markup : String) : Option Document :=
  match assemble [] [] (pieces (.text []) markup.toList) with
  | some [.element tag attrs children] => if tag = "article" then some ⟨attrs, children⟩ else none
  | _ => none

/-- Printing loses nothing: a document is read back from its print, so no other document with a
print of its own has the same print. -/
theorem readBack_print {d : Document} (legible : d.Legible) :
    readBack d.print = some d ∧ ∀ d' : Document, d'.Legible → d'.print = d.print → d' = d := by
  have recovered : ∀ {d : Document}, d.Legible → readBack d.print = some d := by
    intro d legible
    have read := Node.assemble_print legible [] [] [] (by intro isText; cases isText)
    rw [List.append_nil] at read
    change assemble [] [] (pieces (.text []) d.print.toList) = some [d.root.toNode] at read
    rw [readBack, read]
    rfl
  refine ⟨recovered legible, ?_⟩
  intro d' legible' same
  have read := recovered legible'
  rw [same, recovered legible] at read
  exact (Option.some.inj read).symm

/-- A page with characters to escape, a line feed that would be dropped, and an empty element. -/
def trickyPage : Document where
  attrs := Dict.ofList [("id", "a\"b&<c>"), ("data'x", "&quot;")]
  children :=
    [.element "pre" Dict.empty [.text "\n&lt;<"], .element "br" Dict.empty [], .text "a > b"]

theorem legible_trickyPage : trickyPage.Legible := by
  refine .element (.of_letters (by decide) (by decide)) (by decide) (by decide) (by decide) ?_ ?_
  · decide
  · intro child member
    rcases List.mem_cons.mp member with rfl | member
    · refine .element (.of_letters (by decide) (by decide)) (by decide) (by decide) (by decide)
        (by decide) ?_
      intro child member
      rw [List.mem_singleton.mp member]
      exact .text (by decide)
    · rcases List.mem_cons.mp member with rfl | member
      · exact .element (.of_letters (by decide) (by decide)) (by decide) (by decide)
          (fun _ => rfl) (by decide) (by simp)
      · rw [List.mem_singleton.mp member]
        exact .text (by decide)

/-- That page is read back. -/
theorem readBack_print_trickyPage :
    trickyPage.Legible ∧ readBack trickyPage.print = some trickyPage :=
  ⟨legible_trickyPage, (readBack_print legible_trickyPage).1⟩

end Document

end Folio
