import Folio.Proofs.Excerpt
import Folio.Proofs.Text.Line

namespace Folio
namespace Excerpt

open Text

/-!
# Markers of other excerpts

A line that is put into a source file with a marker on it, but no marker of the excerpt in question,
does not change where the reader stands.  Outside every region it is passed over.  In a region it is
left out if it carries the marker of a plain identifier, and kept as a line of the excerpt if it
does not; an identifier with any other character in it may be asked for, but its markers are not
seen in the regions of others.
-/

/-- A source file with one more line behind its first `n` lines. -/
def insertLine (line : String) (n : Nat) (content : String) : String :=
  String.ofList (joinLines ((lineFeedLines content.toList).take n ++
    line.toList :: (lineFeedLines content.toList).drop n))

/-- Whether an identifier is plain, so that its markers are seen on every line. -/
def IsPlain (id : String) : Prop := id ≠ "" ∧ ∀ c ∈ id.toList, isNameChar c = true

/-- Whether the first `n` lines of a file end in a region of an excerpt. -/
def EndsInRegion (id : String) (n : Nat) (content : String) : Prop :=
  IsReading id ((sourceLines content).take n) (.error (.unterminated id))

section Line

variable {id : String} {line : List Char}

theorem IsPlain.carriesMarker (plain : IsPlain id)
    (marked : startMarker id <:+: line ∨ endMarker id <:+: line) : CarriesMarker line := by
  refine ⟨id.toList, ?_, plain.2, marked⟩
  intro empty
  exact plain.1 (String.toList_eq_nil_iff.mp empty)

/-- A line with a marker on it has something on it besides the carriage return of its end. -/
theorem dropFinalReturn_ne_nil (marked : startMarker id <:+: line ∨ endMarker id <:+: line) :
    dropFinalReturn line ≠ [] := by
  have brace : '}' ≠ '\r' := by decide
  have onLine := marked.imp (infix_dropFinalReturn_iff brace line).mpr
    (infix_dropFinalReturn_iff brace line).mpr
  intro empty
  rw [empty, List.infix_nil, List.infix_nil] at onLine
  rcases onLine with impossible | impossible
  · exact List.append_ne_nil_of_right_ne_nil _ (List.cons_ne_nil _ _) impossible
  · exact List.append_ne_nil_of_right_ne_nil _ (List.cons_ne_nil _ _) impossible

theorem isUnmarked_dropFinalReturn_iff :
    IsUnmarked id (dropFinalReturn line) ↔ IsUnmarked id line := by
  have brace : '}' ≠ '\r' := by decide
  rw [IsUnmarked, IsUnmarked, startMarker, endMarker, infix_dropFinalReturn_iff brace,
    infix_dropFinalReturn_iff brace]

theorem carriesMarker_dropFinalReturn_iff :
    CarriesMarker (dropFinalReturn line) ↔ CarriesMarker line := by
  have brace : '}' ≠ '\r' := by decide
  simp only [CarriesMarker, infix_dropFinalReturn_iff brace]

end Line

theorem HavePassages.append {id : String} {lines rest : List (List Char)}
    {passages : List Passage} (shape : HavePassages id lines passages rest)
    (back : List (List Char)) : HavePassages id (lines ++ back) passages (rest ++ back) :=
  ⟨shape.marked, by rw [shape.divided, List.append_assoc]⟩

/-- Behind some lines the reader has met a stray end marker, or it goes on from a position with what
it has kept; that position is inside a region exactly if the lines end in one. -/
theorem exists_position_after (id : String) (front : List (List Char)) :
    (∀ back, regionLines id (.outside false) (front ++ back) = .error (.endBeforeStart id)) ∨
      ∃ position kept,
        (position = .inside ↔ IsReading id front (.error (.unterminated id))) ∧
        ∀ back, regionLines id (.outside false) (front ++ back) =
          (kept ++ ·) <$> regionLines id position back := by
  rcases exists_isReading id front with ⟨answer, reading⟩
  have outside : answer ≠ .error (.unterminated id) → ∀ found,
      (Position.outside found = .inside ↔ IsReading id front (.error (.unterminated id))) := by
    intro different found
    refine iff_of_false (fun impossible => by cases impossible) ?_
    intro unterminated
    exact different ((regionLines_of_isReading reading).symm.trans
      (regionLines_of_isReading unterminated))
  match answer, reading, outside with
  | .ok kept, ⟨passages, rest, nonempty, shape, unmarked, same⟩, outside =>
      refine Or.inr ⟨.outside true, kept, outside (fun impossible => by cases impossible) true, ?_⟩
      intro back
      have found : (!passages.isEmpty) = true := by simpa using nonempty
      rw [(shape.append back).divided, regionLines_passages shape.marked,
        regionLines_unmarked _ unmarked, found, Bool.or_true, same]
  | .error (.endBeforeStart _), ⟨_, _, _, _, _, shape, unmarked, stray, notOpening⟩, _ =>
      refine Or.inl ?_
      intro back
      apply regionLines_error (shape.append back)
      intro found
      rw [List.append_assoc, regionLines_unmarked found unmarked, List.cons_append,
        regionLines_stray found stray notOpening]
  | .error (.unterminated _), reading, _ =>
      have same := reading.1
      subst same
      rcases reading.2 with ⟨passages, before, opening, inner, shape, unmarked, isOpening, noEnd⟩
      refine Or.inr ⟨.inside, passages.flatMap Passage.kept ++
        inner.filter (fun line => ¬ CarriesMarker line), iff_of_true rfl reading, ?_⟩
      intro back
      rw [(shape.append back).divided, regionLines_passages shape.marked, List.append_assoc,
        regionLines_unmarked _ unmarked, List.cons_append, regionLines_opening _ isOpening,
        regionLines_inner noEnd, Functor.map_map]
      simp only [List.append_assoc]
  | .error (.notFound _), ⟨_, unmarked⟩, outside =>
      refine Or.inr ⟨.outside false, [], outside (fun impossible => by cases impossible) false, ?_⟩
      intro back
      rw [regionLines_unmarked false unmarked]
      exact (id_map _).symm

/-! ## One more line -/

section Insertion

variable {id : String} {front back : List (List Char)} {line : List Char}

theorem regionLines_inside_cons (unmarked : IsUnmarked id line) :
    regionLines id .inside (line :: back) =
      if CarriesMarker line then regionLines id .inside back
      else (line :: ·) <$> regionLines id .inside back := by
  rw [regionLines, if_neg (closes_iff.not.mpr unmarked.2)]
  exact if_congr isMarkerLine_iff rfl rfl

/-- The reader passes over a line outside every region, and over one that carries a marker. -/
theorem regionLines_insert_of_passed (unmarked : IsUnmarked id line)
    (passed : CarriesMarker line ∨ ¬ IsReading id front (.error (.unterminated id))) :
    regionLines id (.outside false) (front ++ line :: back) =
      regionLines id (.outside false) (front ++ back) := by
  rcases exists_position_after id front with fails | ⟨position, kept, inside, goesOn⟩
  · rw [fails, fails]
  · rw [goesOn, goesOn]
    apply congrArg ((kept ++ ·) <$> ·)
    cases position with
    | outside found =>
        have here : ∀ other ∈ [line], IsUnmarked id other := by simpa using unmarked
        exact regionLines_unmarked found here
    | inside =>
        have carries := passed.resolve_right (not_not.mpr (inside.mp rfl))
        rw [regionLines_inside_cons unmarked, if_pos carries]

/-- The reader keeps a line in a region if it carries no marker. -/
theorem exists_regionLines_insert_of_kept (back : List (List Char)) (unmarked : IsUnmarked id line)
    (bare : ¬ CarriesMarker line) (inside : IsReading id front (.error (.unterminated id))) :
    ∃ kept, regionLines id (.outside false) (front ++ back) =
        (kept ++ ·) <$> regionLines id .inside back ∧
      regionLines id (.outside false) (front ++ line :: back) =
        (kept ++ line :: ·) <$> regionLines id .inside back := by
  rcases exists_position_after id front with fails | ⟨position, kept, isInside, goesOn⟩
  · have failed := fails []
    rw [List.append_nil, regionLines_of_isReading inside] at failed
    cases failed
  · have here := isInside.mpr inside
    subst here
    refine ⟨kept, goesOn back, ?_⟩
    rw [goesOn, regionLines_inside_cons unmarked, if_neg bare, Functor.map_map]

end Insertion

section File

variable {id other line content : String} {n : Nat}

theorem lineFeedLines_insertLine (oneLine : '\n' ∉ line.toList) :
    lineFeedLines (insertLine line n content).toList =
      (lineFeedLines content.toList).take n ++
        line.toList :: (lineFeedLines content.toList).drop n := by
  rw [insertLine, String.toList_ofList]
  apply lineFeedLines_joinLines
  · simp
  · intro part member
    rcases List.mem_append.mp member with before | here
    · exact not_mem_of_mem_splitOn (List.mem_of_mem_take before)
    · rcases List.mem_cons.mp here with rfl | behind
      · exact oneLine
      · exact not_mem_of_mem_splitOn (List.mem_of_mem_drop behind)

theorem sourceLines_insertLine (oneLine : '\n' ∉ line.toList) :
    sourceLines (insertLine line n content) = (sourceLines content).take n ++
      dropFinalReturn line.toList :: (sourceLines content).drop n := by
  rw [sourceLines, lineFeedLines_insertLine oneLine, List.map_append, List.map_cons, List.map_take,
    List.map_drop]
  rfl

theorem insertLine_ne_empty (nonempty : line.toList ≠ []) : insertLine line n content ≠ "" := by
  intro empty
  have short := length_joinLines_lt nonempty ((lineFeedLines content.toList).take n)
    ((lineFeedLines content.toList).drop n)
  rw [insertLine, ← String.toList_eq_nil_iff, String.toList_ofList] at empty
  rw [empty] at short
  exact absurd short (Nat.not_lt_zero _)

/-- The answers with and without the line are those of the reader. -/
theorem extract_insertLine (id : String) (n : Nat) (nonempty : content ≠ "")
    (oneLine : '\n' ∉ line.toList) (shows : dropFinalReturn line.toList ≠ []) :
    extract (insertLine line n content) id = (fun lines => String.ofList (joinLines lines)) <$>
      regionLines id (.outside false) ((sourceLines content).take n ++
        dropFinalReturn line.toList :: (sourceLines content).drop n) ∧
    extract content id = (fun lines => String.ofList (joinLines lines)) <$>
      regionLines id (.outside false) ((sourceLines content).take n ++
        (sourceLines content).drop n) := by
  have notEmpty : line.toList ≠ [] := by
    intro empty
    rw [empty] at shows
    exact shows rfl
  rw [extract_of_ne_empty (insertLine_ne_empty notEmpty), sourceLines_insertLine oneLine,
    extract_of_ne_empty nonempty, List.take_append_drop]
  exact ⟨rfl, rfl⟩

/-- A line that is kept makes the excerpt longer, if there is one. -/
theorem extract_insertLine_eq_iff_of_kept (nonempty : content ≠ "")
    (oneLine : '\n' ∉ line.toList) (shows : dropFinalReturn line.toList ≠ [])
    (unmarked : IsUnmarked id line.toList) (bare : ¬ CarriesMarker line.toList)
    (inside : EndsInRegion id n content) :
    extract (insertLine line n content) id = extract content id ↔
      ∀ text, extract content id ≠ .ok text := by
  rcases extract_insertLine id n nonempty oneLine shows with ⟨after, before⟩
  rcases exists_regionLines_insert_of_kept ((sourceLines content).drop n)
    (isUnmarked_dropFinalReturn_iff.mpr unmarked) (carriesMarker_dropFinalReturn_iff.not.mpr bare)
    inside with ⟨kept, without, withLine⟩
  rw [after, before, without, withLine]
  cases regionLines id .inside ((sourceLines content).drop n) with
  | error e => exact iff_of_true rfl fun text impossible => by cases impossible
  | ok behind =>
      refine iff_of_false ?_ fun none => none _ rfl
      intro same
      have texts := String.ofList_injective (Except.ok.inj same)
      have longer := length_joinLines_lt shows kept behind
      rw [texts] at longer
      exact absurd longer (Nat.lt_irrefl _)

/-- A line with the marker of another excerpt does not change an excerpt, wherever it is put into
the file, if the other identifier is plain.  In general it changes the excerpt exactly if there is
one, the place is in a region of it, and no plain marker is on the line; then the line is kept. -/
theorem extract_insertLine_eq_iff (content id other line : String) (n : Nat)
    (nonempty : content ≠ "") (oneLine : '\n' ∉ line.toList)
    (marked : startMarker other <:+: line.toList ∨ endMarker other <:+: line.toList)
    (unmarked : IsUnmarked id line.toList) :
    (IsPlain other → extract (insertLine line n content) id = extract content id) ∧
      (extract (insertLine line n content) id = extract content id ↔
        CarriesMarker line.toList ∨ ¬ EndsInRegion id n content ∨
          ∀ text, extract content id ≠ .ok text) := by
  have shows := dropFinalReturn_ne_nil marked
  have passed : CarriesMarker line.toList ∨ ¬ EndsInRegion id n content →
      extract (insertLine line n content) id = extract content id := by
    intro passed
    rcases extract_insertLine id n nonempty oneLine shows with ⟨after, before⟩
    rw [after, before, regionLines_insert_of_passed (isUnmarked_dropFinalReturn_iff.mpr unmarked)]
    rwa [carriesMarker_dropFinalReturn_iff]
  refine ⟨fun plain => passed (Or.inl (plain.carriesMarker marked)), ?_⟩
  by_cases carries : CarriesMarker line.toList
  · exact iff_of_true (passed (Or.inl carries)) (Or.inl carries)
  · by_cases inside : EndsInRegion id n content
    · rw [extract_insertLine_eq_iff_of_kept nonempty oneLine shows unmarked carries inside,
        or_iff_right carries, or_iff_right (not_not.mpr inside)]
    · exact iff_of_true (passed (Or.inr inside)) (Or.inr (Or.inl inside))

end File

/-- Two regions; the line that closes the first one ends with a carriage return. -/
def twoRegions : String :=
  "fragment-start\x7ba\x7d\nx\nfragment-end\x7ba\x7d\r\n" ++
    "fragment-start\x7ba\x7d\ny\nfragment-end\x7ba\x7d"

def plainMarkerLine : String := "// fragment-end\x7bé-1\x7d"

theorem extract_insertLine_twoRegions :
    twoRegions ≠ "" ∧ '\n' ∉ plainMarkerLine.toList ∧
      (startMarker "é-1" <:+: plainMarkerLine.toList ∨
        endMarker "é-1" <:+: plainMarkerLine.toList) ∧
      IsUnmarked "a" plainMarkerLine.toList ∧ IsPlain "é-1" ∧
      extract (insertLine plainMarkerLine 1 twoRegions) "a" = .ok "x\ny" := by
  have nonempty : twoRegions ≠ "" := by decide
  have oneLine : '\n' ∉ plainMarkerLine.toList := by decide
  have marked : startMarker "é-1" <:+: plainMarkerLine.toList ∨
      endMarker "é-1" <:+: plainMarkerLine.toList := by decide +kernel
  have unmarked : IsUnmarked "a" plainMarkerLine.toList := by decide +kernel
  have plain : IsPlain "é-1" := ⟨by decide, List.all_eq_true.mp (by decide +kernel)⟩
  have unchanged := (extract_insertLine_eq_iff twoRegions "a" "é-1" plainMarkerLine 1 nonempty
    oneLine marked unmarked).1 plain
  refine ⟨nonempty, oneLine, marked, unmarked, plain, unchanged.trans ?_⟩
  decide +kernel

/-- The marker of an identifier with a dot in it is kept as a line of another excerpt. -/
theorem not_forall_extract_insertLine_eq :
    ¬ ∀ (content id other line : String) (n : Nat), content ≠ "" → other ≠ "" → other ≠ id →
      '\n' ∉ other.toList → '\r' ∉ other.toList → '\n' ∉ line.toList →
      (startMarker other <:+: line.toList ∨ endMarker other <:+: line.toList) →
      IsUnmarked id line.toList →
      extract (insertLine line n content) id = extract content id := by
  intro claimed
  have unchanged := claimed "fragment-start\x7ba\x7d\nx\nfragment-end\x7ba\x7d\n" "a" "b.c"
    "fragment-start\x7bb.c\x7d" 2 (by decide) (by decide) (by decide) (by decide) (by decide)
    (by decide) (by decide +kernel) (by decide +kernel)
  revert unchanged
  decide +kernel

end Excerpt
end Folio
