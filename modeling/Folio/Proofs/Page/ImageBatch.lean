import Folio.Proofs.Page.ExampleCode
import Folio.Proofs.Text.Word

namespace Folio

open Markup

/-!
# The images of a page and their batch

Addresses of images are collected by one walk, made in a batch, and found again by another walk that
puts the markup in.  The two walks see the same images: whatever the second comes to stands outside
code, and so its address is in the batch if it is in the table of files.  What is put in can thus be
told without the batch, from the address alone.  The batch asks the maker once for each address, and
its order decides about nothing but the order of what is reported.
-/

namespace ImageSource

variable (source : ImageSource) (maxWidth : Nat)

/-- What the maker is asked for the image at a known address. -/
def request (src : String) : String × Nat := ((source.files.get? src).getD "", maxWidth)

theorem run_makeBatch_cons {σ : Type} (files : Dict String) (make : ImageMaker σ) (maxWidth : Nat)
    (src : String) (batch : List String) (s : σ) :
    (makeBatch files make maxWidth (src :: batch)).run s =
      let file := (files.get? src).getD ""
      let answer := (make file maxWidth).run s
      let later := (makeBatch files make maxWidth batch).run answer.2
      ((src, judge src file answer.1) :: later.1, later.2) := by
  rw [makeBatch, List.mapM_cons]
  rfl

/-- A batch brings what there is at each of its addresses, and asks a maker once for each.  The
maker is any that answers as the source does, whatever it notes down of a request. -/
theorem run_makeBatch {σ : Type} (make : ImageMaker σ) (note : σ → String × Nat → σ)
    (answers : ∀ file width s,
      (make file width).run s = (source.fluid file width, note s (file, width)))
    (batch : List String) (s : σ) :
    (makeBatch source.files make maxWidth batch).run s =
      (batch.map fun src => (src, source.variants maxWidth src),
        (batch.map (source.request maxWidth)).foldl note s) := by
  induction batch generalizing s with
  | nil => rfl
  | cons src batch inductionHypothesis =>
      simp only [run_makeBatch_cons, answers, inductionHypothesis]
      rfl

/-- The maker of a source, with a record of what it is asked for. -/
def recorder : ImageMaker (List (String × Nat)) := fun file maxWidth => do
  modify (· ++ [(file, maxWidth)])
  return source.fluid file maxWidth

theorem run_makeBatch_recorder (batch : List String) (asked : List (String × Nat)) :
    (makeBatch source.files source.recorder maxWidth batch).run asked =
      (batch.map fun src => (src, source.variants maxWidth src),
        asked ++ batch.map (source.request maxWidth)) := by
  have run := source.run_makeBatch maxWidth source.recorder
    (fun asked request => asked ++ [request]) (fun _ _ _ => rfl) batch asked
  rw [run, List.foldl_append_eq_append, ← List.flatMap_def, List.flatMap_singleton']

theorem results_eq_map (srcs : List String) :
    source.results maxWidth srcs = srcs.map fun src => (src, source.variants maxWidth src) := by
  have run := source.run_makeBatch maxWidth source.maker (fun _ _ => ()) (fun _ _ _ => rfl) srcs ()
  rw [results, run]

end ImageSource

/-- Whether the proportions of an image can be told. -/
def FluidImage.HasValidRatio (image : FluidImage) : Prop :=
  image.aspectRatio.isFinite = true ∧ image.aspectRatio > 0.0

namespace ImageSource

variable (source : ImageSource) (maxWidth : Nat)

/-- The variants that an image is replaced by, told from its address. -/
def imageFor? (img : Element) : Option FluidImage :=
  ((img.attr? "src").filter source.files.contains).bind fun src =>
    (source.variants maxWidth src).toOption

/-- Why the images at a known address are not replaced, if they are not. -/
def failure? (src : String) : Option ImageWarning :=
  match source.variants maxWidth src with
  | .ok _ => none
  | .error w => some w

theorem toOption_judge_eq_some_iff (src file : String) (answer : Except ImageError FluidImage)
    (image : FluidImage) :
    (judge src file answer).toOption = some image ↔
      answer = .ok image ∧ image.HasValidRatio := by
  cases answer with
  | error e => simp [judge, Except.toOption]
  | ok made =>
      rw [judge, Except.ok.injEq]
      split
      · next valid =>
          rw [Bool.and_eq_true, decide_eq_true_iff] at valid
          constructor
          · intro kept
            cases kept
            exact ⟨rfl, valid⟩
          · rintro ⟨rfl, -⟩
            rfl
      · next invalid =>
          rw [Bool.and_eq_true, decide_eq_true_iff] at invalid
          constructor
          · intro kept
            cases kept
          · rintro ⟨rfl, valid⟩
            exact absurd valid invalid

theorem imageFor?_eq_some_iff {img : Element} {image : FluidImage} :
    source.imageFor? maxWidth img = some image ↔ ∃ src file, img.attr? "src" = some src ∧
      source.files.get? src = some file ∧ source.fluid file maxWidth = .ok image ∧
      image.HasValidRatio := by
  rw [imageFor?, Option.bind_eq_some_iff]
  simp only [Option.filter_eq_some_iff, variants, toOption_judge_eq_some_iff, Table.contains,
    Option.isSome_iff_exists]
  constructor
  · rintro ⟨src, ⟨address, file, known⟩, made⟩
    rw [known] at made
    exact ⟨src, file, address, known, made⟩
  · rintro ⟨src, file, address, known, made⟩
    refine ⟨src, ⟨address, file, known⟩, ?_⟩
    rw [known]
    exact made

theorem failure?_eq_none_iff {src file : String} (known : source.files.get? src = some file) :
    source.failure? maxWidth src = none ↔
      ∃ image, source.fluid file maxWidth = .ok image ∧ image.HasValidRatio := by
  have usable := toOption_judge_eq_some_iff src file (source.fluid file maxWidth)
  rw [failure?, variants, known, Option.getD_some]
  simp only [← usable]
  cases judge src file (source.fluid file maxWidth) with
  | error w => simp [Except.toOption]
  | ok image => simp [Except.toOption]

/-- An address is found in a batch as it is judged, and not at all if it is not in the batch. -/
theorem find?_map (batch : List String) (img : Element) :
    find? (batch.map fun src => (src, source.variants maxWidth src)) img =
      ((img.attr? "src").filter (batch.contains ·)).bind fun src =>
        (source.variants maxWidth src).toOption := by
  rw [find?]
  cases img.attr? "src" with
  | none => rfl
  | some src =>
      rw [Option.bind_some, Option.filter_some]
      by_cases listed : src ∈ batch
      · rw [List.lookup_graph _ listed, if_pos (List.contains_iff_mem.mpr listed)]
        rfl
      · have absent :
            (batch.map fun src => (src, source.variants maxWidth src)).lookup src = none := by
          rw [Table.lookup_eq_none_iff_not_mem, List.map_map]
          simpa using listed
        rw [absent, if_neg (by simpa using listed)]
        rfl

end ImageSource

/-- What the image in the place of another shows: the variants that were made, and what the author
wrote about the other. -/
structure FluidImage.Presents (image : FluidImage) (img shown : Element) : Prop where
  src : shown.attr? "src" = some image.src
  sourceSet : shown.attr? "srcset" = some image.sourceSet
  sizes : shown.attr? "sizes" = some image.sizes
  alt : shown.attr? "alt" = some ((img.attr? "alt").getD "")
  title : shown.attr? "title" = some ((img.attr? "title").getD "")
  classes : (shown.attr? "class").map Text.words =
    some (((img.attr? "class").map Text.words).getD [] ++ ["fluid"])

theorem words_withClass (classes : Option String) (added : String) :
    Text.words (withClass classes added) =
      (classes.map Text.words).getD [] ++ Text.words added := by
  cases classes with
  | none => rfl
  | some classes =>
      rw [withClass, Option.map_some, Option.map_some, Option.getD_some, Option.filter_some,
        ← Text.words_trim classes]
      cases empty : (Text.trim classes).isEmpty with
      | true =>
          rw [String.isEmpty_iff.mp empty]
          rfl
      | false => exact Text.words_append_space _ _

theorem FluidImage.presents_imageMarkup (image : FluidImage) (img : Element) :
    image.Presents img (image.imageMarkup img) where
  src := rfl
  sourceSet := rfl
  sizes := rfl
  alt := rfl
  title := rfl
  classes := congrArg some (words_withClass (img.attr? "class") "fluid")

/-! ## The images of a page -/

theorem nodup_eraseDups (l : List String) : l.eraseDups.Nodup := by
  cases l with
  | nil => exact List.nodup_nil
  | cons s l =>
      rw [List.eraseDups_cons, List.nodup_cons]
      constructor
      · simp
      · exact nodup_eraseDups _
termination_by l.length
decreasing_by exact Nat.lt_succ_of_le (List.length_filter_le _ _)

namespace Document

theorem mem_images_iff {d : Document} {e : Element} :
    e ∈ d.images ↔
      e ∈ Node.collectIn Element.isOutsideCode (fun e => [e]) d.children ∧ isImage e = true := by
  have read := Renderer.filterMap_images d some
  rw [List.filterMap_some] at read
  rw [read, ← List.mem_filter, Node.filter_collectIn]
  rfl

theorem mem_imageSources_iff {d : Document} {files : Dict String} {src : String} :
    src ∈ d.imageSources files ↔
      files.contains src = true ∧ ∃ img ∈ d.images, img.attr? "src" = some src := by
  rw [imageSources, List.mem_eraseDups, List.mem_filter, List.mem_filterMap, and_comm]

/-- A page with those images replaced that there are variants of. -/
def withImages (d : Document) (source : ImageSource) (maxWidth : Nat) : Document :=
  { d with
    children := Node.substituteIn
      (fun e => isImage e && (source.imageFor? maxWidth e).isSome)
      (fun img => ((source.imageFor? maxWidth img).map fun image =>
        (image.markup img).toNode).toList)
      d.children }

/-- The walk that puts the markup in finds the images whose addresses were collected. -/
theorem find?_map_of_mem_images {d : Document} {source : ImageSource} {batch : List String}
    (complete : ∀ src, src ∈ batch ↔ src ∈ d.imageSources source.files) (maxWidth : Nat)
    {img : Element} (listed : img ∈ d.images) :
    ImageSource.find? (batch.map fun src => (src, source.variants maxWidth src)) img =
      source.imageFor? maxWidth img := by
  rw [ImageSource.find?_map, ImageSource.imageFor?]
  cases address : img.attr? "src" with
  | none => rfl
  | some src =>
      have same : batch.contains src = source.files.contains src := by
        rw [Bool.eq_iff_iff, List.contains_iff_mem, complete, mem_imageSources_iff]
        exact ⟨And.left, fun known => ⟨known, img, listed, address⟩⟩
      rw [Option.filter_some, Option.filter_some, same]

theorem fst_placeImages_map {d : Document} {source : ImageSource} {batch : List String}
    (complete : ∀ src, src ∈ batch ↔ src ∈ d.imageSources source.files) (maxWidth : Nat) :
    (d.placeImages source.files
      (batch.map fun src => (src, source.variants maxWidth src))).1 =
      d.withImages source maxWidth := by
  rw [fst_placeImages, withImages]
  refine congrArg (fun children => { d with children }) (Node.substituteIn_congr _ ?_)
  intro e reached
  cases isImg : isImage e with
  | false => exact ⟨rfl, fun passes => by cases passes⟩
  | true =>
      have listed := mem_images_iff.mpr ⟨reached, isImg⟩
      rw [find?_map_of_mem_images complete maxWidth listed]
      exact ⟨rfl, fun _ => rfl⟩

/-- What there is to say about the images of a page: one warning for each image without an address,
one for each whose address is unknown, and one for each known address that there are no variants
for. -/
def imageWarnings (d : Document) (source : ImageSource) (maxWidth : Nat) : List ImageWarning :=
  (d.images.filter fun img => !img.hasAttr "src").map (fun _ => .withoutSource) ++
    ((d.images.filterMap fun img => img.attr? "src").filter fun src =>
      !source.files.contains src).map .unknownSource ++
    (d.imageSources source.files).filterMap (source.failure? maxWidth)

theorem sourceWarnings_perm (files : Dict String) (imgs : List Element) :
    (imgs.filterMap (sourceWarning? files)).Perm
      ((imgs.filter fun img => !img.hasAttr "src").map (fun _ => .withoutSource) ++
        ((imgs.filterMap fun img => img.attr? "src").filter fun src =>
          !files.contains src).map .unknownSource) := by
  induction imgs with
  | nil => rfl
  | cons img imgs inductionHypothesis =>
      have present : img.hasAttr "src" = (img.attr? "src").isSome := rfl
      rw [List.filterMap_cons, List.filterMap_cons, List.filter_cons, sourceWarning?, present]
      cases img.attr? "src" with
      | none => exact inductionHypothesis.cons _
      | some src =>
          rw [List.filter_cons]
          cases known : files.contains src with
          | true => simpa [known] using inductionHypothesis
          | false =>
              simpa [known] using
                (inductionHypothesis.cons (.unknownSource src)).trans List.perm_middle.symm

theorem snd_placeImages_map {d : Document} {source : ImageSource} {batch : List String}
    (perm : batch.Perm (d.imageSources source.files)) (maxWidth : Nat) :
    (d.placeImages source.files
      (batch.map fun src => (src, source.variants maxWidth src))).2.Perm
      (d.imageWarnings source maxWidth) := by
  rw [snd_placeImages, imageWarnings, List.filterMap_map]
  exact (sourceWarnings_perm source.files d.images).append
    (perm.filterMap (source.failure? maxWidth))

/-- The images of a page, made in any order.  The maker is asked once for each distinct address that
is known and stands at an image outside code, and for nothing else.  The page that comes of it has
markup in the place of exactly those outermost images outside code whose file there are usable
variants of, and the markup shows these and what the author wrote.  What is reported is one warning
for each image without an address, for each image whose address is unknown, and for each distinct
address that could not be made. -/
theorem run_substituteBatch (d : Document) (source : ImageSource) (maxWidth : Nat) :
    (d.imageSources source.files).Nodup ∧
      (∀ src, src ∈ d.imageSources source.files ↔
        source.files.contains src = true ∧ ∃ img ∈ d.images, img.attr? "src" = some src) ∧
      (∀ batch, batch.Perm (d.imageSources source.files) → ∃ warnings,
        (d.substituteBatch source.files source.recorder maxWidth batch).run [] =
            ((d.withImages source maxWidth, warnings), batch.map (source.request maxWidth)) ∧
          warnings.Perm (d.imageWarnings source maxWidth)) ∧
      (∃ warnings, d.substituteImages source maxWidth = (d.withImages source maxWidth, warnings) ∧
        warnings.Perm (d.imageWarnings source maxWidth)) ∧
      (∀ img image, source.imageFor? maxWidth img = some image ↔
        ∃ src file, img.attr? "src" = some src ∧ source.files.get? src = some file ∧
          source.fluid file maxWidth = .ok image ∧ image.HasValidRatio) ∧
      (∀ src file, source.files.get? src = some file → (source.failure? maxWidth src = none ↔
        ∃ image, source.fluid file maxWidth = .ok image ∧ image.HasValidRatio)) ∧
      ∀ (image : FluidImage) (img : Element), ∃ preview shown : Element,
        (image.markup img).children = [preview.toNode, shown.toNode] ∧
          image.Presents img shown := by
  refine ⟨nodup_eraseDups _, fun src => mem_imageSources_iff, ?_, ?_,
    fun img image => source.imageFor?_eq_some_iff maxWidth,
    fun src file known => source.failure?_eq_none_iff maxWidth known, ?_⟩
  · intro batch perm
    refine ⟨_, ?_, snd_placeImages_map perm maxWidth⟩
    rw [substituteBatch, StateT.run_bind, source.run_makeBatch_recorder,
      ← fst_placeImages_map (fun src => perm.mem_iff) maxWidth]
    rfl
  · refine ⟨_, ?_, snd_placeImages_map (List.Perm.refl _) maxWidth⟩
    rw [← fst_placeImages_map (fun src => Iff.rfl) maxWidth, ← source.results_eq_map]
    rfl
  · intro image img
    exact ⟨image.previewMarkup, image.imageMarkup img, rfl, image.presents_imageMarkup img⟩

/-- A page with one image twice, one that cannot be made, and one in code. -/
def gallery : Document where
  children :=
    [.element "img" (Dict.ofList [("src", "a.png"), ("alt", "A")]) [],
      .element "img" (Dict.ofList [("src", "broken.png")]) [],
      .element "p" Dict.empty [.element "img" (Dict.ofList [("src", "a.png")]) []],
      .element "pre" Dict.empty [.element "img" (Dict.ofList [("src", "code.png")]) []]]

/-- A source that cannot make one of its files. -/
def gallerySource : ImageSource where
  files := Dict.ofList [("a.png", "img/a.png"), ("broken.png", "img/broken.png"),
    ("code.png", "img/code.png")]
  fluid := fun file maxWidth =>
    if file = "img/broken.png" then .error (.processing file "corrupt")
    else .ok ⟨file, file ++ " " ++ maxWidth.repr ++ "w", "100vw", 2, "data:"⟩

/-- Made back to front, the images of that page take two requests, and one warning is left. -/
theorem run_substituteBatch_gallery :
    ["broken.png", "a.png"].Perm (gallery.imageSources gallerySource.files) ∧
      ∃ warnings, (gallery.substituteBatch gallerySource.files gallerySource.recorder 720
          ["broken.png", "a.png"]).run [] =
        ((gallery.withImages gallerySource 720, warnings),
          [("img/broken.png", 720), ("img/a.png", 720)]) ∧
        warnings.map ImageWarning.message =
          ["Image broken.png left unchanged: Failed to process image img/broken.png: corrupt"] := by
  have perm : ["broken.png", "a.png"].Perm (gallery.imageSources gallerySource.files) := by
    decide +kernel
  rcases (gallery.run_substituteBatch gallerySource 720).2.2.1 _ perm with ⟨warnings, run, reported⟩
  refine ⟨perm, warnings, run, ?_⟩
  have expected : (gallery.imageWarnings gallerySource 720).map ImageWarning.message =
      ["Image broken.png left unchanged: Failed to process image img/broken.png: corrupt"] := by
    decide +kernel
  have same := reported.map ImageWarning.message
  rw [expected] at same
  exact List.perm_singleton.mp same

end Document

end Folio
