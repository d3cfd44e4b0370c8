import Folio.Page.FullText

namespace Folio

open Markup

/-!
# Search records

A page is indexed as a list of records: one for the article, one for every section, piece of code,
figure and callout that can be pointed at, and one for every fragment of running text.  A record
names the sections around its element from the outside in.  The attribute `data-indexing` switches
indexing off or on again below an element; the nearest such attribute decides.
-/

inductive RecordKind where
  | heading
  | code
  | figure
  | paragraph
  deriving DecidableEq

structure SearchRecord where
  text : String
  kind : RecordKind
  /-- The identifier of the element, empty if it has none. -/
  id : String
  /-- The labels of the sections and callouts around the element, outermost first. -/
  parents : List String
  /-- The classes that tell records of one kind apart. -/
  classes : String
  deriving DecidableEq

def indexingAttr : String := "data-indexing"

/-- The choice that an element makes about indexing, if it makes one. -/
def indexingFlag? (e : Element) : Option Bool :=
  match (e.attr? indexingAttr).map Text.trim with
  | some "disabled" => some false
  | some "enabled" => some true
  | _ => none

def Document.isIndexed (d : Document) (path : TreePath) : Bool :=
  (((d.at? path).toList ++ (d.ancestors path).reverse).findSome? indexingFlag?).getD true

/-- The label that an element gives to the records of what stands in it. -/
def parentLabel? (e : Element) : Option String :=
  if e.tag == "section" || e.tag == "article" || e.isCallout then
    ((e.findChild? fun c => c.isHeading || c.tag == "strong").map Element.normalText).filter
      (!·.isEmpty)
  else none

def Document.parentsAt (d : Document) (path : TreePath) : List String :=
  (d.ancestors path).filterMap parentLabel?

/-- The text of the caption of a figure: of its first element, if it holds any. -/
def figureCaption (figure : Element) : String :=
  match figure.findBelow? fun e => e.tag == "figcaption" with
  | none => ""
  | some caption => (caption.childElements.head?.getD caption).normalText

/-- What kind of figure an element is, by what stands in it. -/
def figureClass (figure : Element) : String :=
  if (figure.findBelow? fun e => e.tag == "img" || e.tag == "picture").isSome then "image"
  else if (figure.findBelow? fun e => e.tag == "pre").isSome then "example"
  else "figure"

/-- Classes in one attribute value; what is blank is left out. -/
def joinClasses (classes : List String) : String :=
  " ".intercalate ((classes.map Text.trim).filter (!·.isEmpty))

/-- The text of the headings that stand directly in an element. -/
def headingText (e : Element) : String :=
  Text.normalize (String.join ((e.childElements.filter Element.isHeading).map Element.shownText))

def calloutText (e : Element) : String :=
  ((e.findBelow? fun c => c.tag == "strong").map Element.normalText).getD ""

/-! ## Records -/

/-- A kind of element that gets a record, and what the record says. -/
structure RecordRule where
  applies : Element → Bool
  kind : RecordKind
  mark : Element → List String
  text : Element → String

/-- The rules, in the order in which their records are listed. -/
def recordRules : List RecordRule :=
  [{ applies := fun e => e.tag == "section" && e.id?.isSome
     kind := .heading
     mark := fun _ => ["section"]
     text := headingText },
   { applies := fun e => e.tag == "code" && e.id?.isSome
     kind := .code
     mark := fun _ => ["api"]
     text := Element.normalText },
   { applies := fun e => e.tag == "figure" && e.id?.isSome
     kind := .figure
     mark := fun e => [figureClass e]
     text := figureCaption },
   { applies := Element.isCallout
     kind := .heading
     mark := fun _ => []
     text := calloutText }]

namespace RecordRule

def recordAt (rule : RecordRule) (d : Document) (path : TreePath) : Option SearchRecord :=
  (d.at? path).map fun e =>
    { text := rule.text e
      kind := rule.kind
      id := e.id?.getD ""
      parents := d.parentsAt path
      classes := joinClasses (rule.mark e ++ (e.attr? "class").toList) }

/-- The records of all elements of a page that a rule applies to, code blocks included, where what
can be pointed at usually is. -/
def records (rule : RecordRule) (d : Document) : List SearchRecord :=
  ((d.allPaths rule.applies).filter d.isIndexed).filterMap (rule.recordAt d)

end RecordRule

namespace Document

/-- Whether the element at a path is the first element of a figure caption, whose text is in the
record of the figure. -/
def isCaptionLead (d : Document) (path : TreePath) : Bool :=
  match path.getLast? with
  | none => false
  | some i =>
    match d.at? path.dropLast with
    | none => false
    | some parent =>
      parent.tag == "figcaption" && (parent.child? i).isSome &&
        (parent.children.take i).all fun n => n.element?.isNone

/-- The caption of the nearest figure around a path. -/
def captionAround (d : Document) (path : TreePath) : List String :=
  (((d.ancestors path).reverse.find? fun e => e.tag == "figure").map figureCaption).toList.filter
    (!·.isEmpty)

/-- The record of the fragment of running text at a path. -/
def paragraphAt (d : Document) (path : TreePath) : Option SearchRecord :=
  (d.at? path).map fun e =>
    { text := e.normalText
      kind := .paragraph
      id := e.id?.getD ""
      parents := d.parentsAt path ++ d.captionAround path
      classes := joinClasses (e.attr? "class").toList }

def paragraphRecords (d : Document) : List SearchRecord :=
  (d.fullTextPaths.filter fun path => !d.isCaptionLead path && d.isIndexed path).filterMap
    d.paragraphAt

def articleRecord (d : Document) : SearchRecord where
  text := headingText d.root
  kind := .heading
  id := d.root.id?.getD ""
  parents := []
  classes := joinClasses ("section" :: (d.root.attr? "class").toList)

/-- The search records of a page; there are none if the article itself is not indexed. -/
def searchRecords (d : Document) : List SearchRecord :=
  if indexingFlag? d.root = some false then []
  else d.articleRecord :: (recordRules.flatMap (·.records d) ++ d.paragraphRecords)

end Document

end Folio
