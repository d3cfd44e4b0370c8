import Folio.Decimal
import Folio.Page.Document

namespace Folio

open Markup

/-!
# Responsive images

An image whose file is known is replaced by markup that shows a blurred preview until one of several
variants is loaded.  Making the variants is left to an image maker; every file is given to it once,
however often the page shows the image.
-/

structure FluidImage where
  /-- The address of the variant shown by default. -/
  src : String
  /-- All variants, as the attribute `srcset` lists them. -/
  sourceSet : String
  sizes : String
  /-- Width divided by height. -/
  aspectRatio : Float
  /-- A tiny preview, inside an address of its own. -/
  preview : String

inductive ImageError where
  | processing (path message : String)
  | io (message : String)
  deriving DecidableEq

namespace ImageError

def message : ImageError → String
  | processing path message => "Failed to process image " ++ path ++ ": " ++ message
  | io message => "I/O error: " ++ message

end ImageError

/-- Why an image stays as it is. -/
inductive ImageWarning where
  | withoutSource
  | unknownSource (src : String)
  | failed (src : String) (error : ImageError)
  /-- The ratio, as text, is not the ratio of a width and a height. -/
  | invalidRatio (file ratio : String)
  deriving DecidableEq

namespace ImageWarning

def message : ImageWarning → String
  | withoutSource => "Image without src attribute left unchanged"
  | unknownSource src => "Image file not found for img src " ++ src ++ "."
  | failed src e => "Image " ++ src ++ " left unchanged: " ++ e.message
  | invalidRatio file ratio =>
    "Invalid aspect ratio " ++ ratio ++ " for image " ++ file

end ImageWarning

/-- How images are replaced: the files that the page's addresses stand for, and the maker of
variants no wider than a number of pixels. -/
structure ImageSource where
  files : Dict String
  fluid : (file : String) → (maxWidth : Nat) → Except ImageError FluidImage

/-- The height of an image in percent of its width. -/
def FluidImage.heightPercent (image : FluidImage) : String :=
  Decimal.text ((1.0 / image.aspectRatio) * 100.0)

/-- The classes of an image with one more behind them. -/
def withClass (classes : Option String) (added : String) : String :=
  match (classes.map Text.trim).filter (!·.isEmpty) with
  | some classes => classes ++ " " ++ added
  | none => added

/-- The preview of an image, with its proportions. -/
def FluidImage.previewMarkup (image : FluidImage) : Element where
  tag := "span"
  attrs := Dict.ofList
    [("style", "padding-bottom: " ++ image.heightPercent ++ "%; background-image: url('" ++
        image.preview ++ "')"),
      ("class", "fluid preview")]
  children := [.text " "]

/-- The image itself, with what the author wrote about it. -/
def FluidImage.imageMarkup (image : FluidImage) (img : Element) : Element where
  tag := "img"
  attrs := Dict.ofList
    [("class", withClass (img.attr? "class") "fluid"),
      ("alt", (img.attr? "alt").getD ""),
      ("title", (img.attr? "title").getD ""),
      ("src", image.src),
      ("srcset", image.sourceSet),
      ("sizes", image.sizes)]

def FluidImage.markup (image : FluidImage) (img : Element) : Element where
  tag := "div"
  attrs := Dict.ofList [("style", "position: relative")]
  children := [image.previewMarkup.toNode, (image.imageMarkup img).toNode]

/-! ## The images of a page -/

def isImage (e : Element) : Bool := e.tag == "img"

namespace Document

def images (d : Document) : List Element := (d.pathsOutsideCode isImage).filterMap d.at?

/-- What is wrong with the address of an image. -/
def sourceWarning? (files : Dict String) (img : Element) : Option ImageWarning :=
  match img.attr? "src" with
  | none => some .withoutSource
  | some src => if files.contains src then none else some (.unknownSource src)

/-- The known addresses of images, each once, in document order. -/
def imageSources (d : Document) (files : Dict String) : List String :=
  ((d.images.filterMap fun img => img.attr? "src").filter files.contains).eraseDups

end Document

/-- What makes the variants of an image in a file.  It may keep a state, such as a record of what it
has been asked for. -/
abbrev ImageMaker (σ : Type) :=
  (file : String) → (maxWidth : Nat) → StateM σ (Except ImageError FluidImage)

namespace ImageSource

/-- The variants of the image at a known address as they have come, or why they are not used. -/
def judge (src file : String) : Except ImageError FluidImage → Except ImageWarning FluidImage
  | .error e => .error (.failed src e)
  | .ok image =>
    if image.aspectRatio.isFinite && image.aspectRatio > 0.0 then .ok image
    else .error (.invalidRatio file (Decimal.text image.aspectRatio))

/-- The variants of the image at a known address, or why there are none. -/
def variants (source : ImageSource) (maxWidth : Nat) (src : String) :
    Except ImageWarning FluidImage :=
  let file := (source.files.get? src).getD ""
  judge src file (source.fluid file maxWidth)

/-- Give the images at some known addresses to a maker, one after the other. -/
def makeBatch {σ : Type} (files : Dict String) (make : ImageMaker σ) (maxWidth : Nat)
    (batch : List String) : StateM σ (List (String × Except ImageWarning FluidImage)) :=
  batch.mapM fun src => do
    let file := (files.get? src).getD ""
    let answer ← make file maxWidth
    return (src, judge src file answer)

/-- The maker of a source, which keeps no state. -/
def maker (source : ImageSource) : ImageMaker Unit :=
  fun file maxWidth => pure (source.fluid file maxWidth)

def results (source : ImageSource) (maxWidth : Nat) (srcs : List String) :
    List (String × Except ImageWarning FluidImage) :=
  ((makeBatch source.files source.maker maxWidth srcs).run ()).1

def find? (results : List (String × Except ImageWarning FluidImage)) (img : Element) :
    Option FluidImage :=
  ((img.attr? "src").bind fun src => results.lookup src).bind Except.toOption

end ImageSource

namespace Document

/-- A page with those images replaced that a batch has brought variants of, and why others are
not. -/
def placeImages (d : Document) (files : Dict String)
    (results : List (String × Except ImageWarning FluidImage)) : Document × List ImageWarning :=
  let replaced := Node.replaceIn
    (fun e => isImage e && (ImageSource.find? results e).isSome)
    (fun img warnings => (((ImageSource.find? results img).map fun image =>
      (image.markup img).toNode).toList, warnings))
    d.children
    (d.images.filterMap (sourceWarning? files) ++
      results.filterMap fun r => match r.2 with
        | .ok _ => none
        | .error w => some w)
  ({ d with children := replaced.1 }, replaced.2)

/-- Have the images of a batch made, and place them. -/
def substituteBatch {σ : Type} (d : Document) (files : Dict String) (make : ImageMaker σ)
    (maxWidth : Nat) (batch : List String) : StateM σ (Document × List ImageWarning) := do
  let results ← ImageSource.makeBatch files make maxWidth batch
  return d.placeImages files results

/-- A page with its images replaced, and why some are not.  They are made in document order. -/
def substituteImages (d : Document) (source : ImageSource) (maxWidth : Nat) :
    Document × List ImageWarning :=
  ((d.substituteBatch source.files source.maker maxWidth (d.imageSources source.files)).run ()).1

end Document

end Folio
