import Folio.Excerpt
import Mathlib.Data.List.Infix
import Mathlib.Data.List.TakeWhile

namespace Folio
namespace Excerpt

open Text

/-!
# The grammar of marked regions

The reader of excerpts has two positions and goes from line to line.  The lines that it accepts have
a shape that can be told without it: passages, each of which ends with a closed region, and then
lines outside every region.  Its three errors are three other ways in which a file may go on behind
its closed regions: with an end marker that stands alone, with a region that is never closed, and,
if there is no region at all, with no marker of the excerpt.  Every file has one of these shapes,
and the reader answers each of them as it should; hence its answer tells the shape.

A line may carry several markers.  Outside a region the start marker is looked for first, and inside
one the end marker counts alone, so a line with both opens a region or closes one.
-/

/-- Whether a line has neither marker of an excerpt on it. -/
def IsUnmarked (id : String) (line : List Char) : Prop :=
  ¬ startMarker id <:+: line ∧ ¬ endMarker id <:+: line

instance (id : String) (line : List Char) : Decidable (IsUnmarked id line) :=
  inferInstanceAs (Decidable (_ ∧ _))

/-- Whether a line has the marker of some plain identifier on it. -/
def CarriesMarker (line : List Char) : Prop :=
  ∃ name ≠ [], (∀ c ∈ name, isNameChar c = true) ∧
    (startLabel ++ name ++ ['}'] <:+: line ∨ endLabel ++ name ++ ['}'] <:+: line)

theorem occursIn_iff_infix {pattern line : List Char} :
    occursIn pattern line = true ↔ pattern <:+: line := by
  rw [occursIn_iff]
  exact ⟨fun ⟨before, after, same⟩ => ⟨before, after, same.symm⟩,
    fun ⟨before, after, same⟩ => ⟨before, after, same.symm⟩⟩

theorem opens_iff {id : String} {line : List Char} :
    opens id line = true ↔ startMarker id <:+: line :=
  occursIn_iff_infix

theorem closes_iff {id : String} {line : List Char} :
    closes id line = true ↔ endMarker id <:+: line :=
  occursIn_iff_infix

/-- No character of a name is a brace, so the name in a marker ends where its characters end. -/
theorem nameAndBrace_iff {cs : List Char} :
    nameAndBrace cs = true ↔
      ∃ name ≠ [], (∀ c ∈ name, isNameChar c = true) ∧ name ++ ['}'] <+: cs := by
  have noName : isNameChar '}' = false := by decide +kernel
  rw [nameAndBrace, Bool.and_eq_true, beq_iff_eq, Bool.not_eq_true', List.isEmpty_eq_false_iff]
  constructor
  · rintro ⟨nonempty, closed⟩
    rcases List.head?_eq_some_iff.mp closed with ⟨rest, after⟩
    refine ⟨cs.takeWhile isNameChar, nonempty, fun c => List.mem_takeWhile_imp, rest, ?_⟩
    rw [List.append_assoc, List.singleton_append, ← after, List.takeWhile_append_dropWhile]
  · rintro ⟨name, nonempty, letters, rest, rfl⟩
    rw [List.append_assoc, List.takeWhile_append_of_pos letters,
      List.dropWhile_append_of_pos letters, List.singleton_append,
      List.takeWhile_cons_of_neg (by simp [noName]), List.dropWhile_cons_of_neg (by simp [noName]),
      List.append_nil]
    exact ⟨nonempty, rfl⟩

theorem any_nameAndBrace_dropFront?_iff {label cs : List Char} :
    (dropFront? label cs).any nameAndBrace = true ↔
      ∃ name ≠ [], (∀ c ∈ name, isNameChar c = true) ∧ label ++ name ++ ['}'] <+: cs := by
  rw [Option.any_eq_true]
  constructor
  · rintro ⟨rest, inFront, named⟩
    rcases nameAndBrace_iff.mp named with ⟨name, nonempty, letters, closed⟩
    refine ⟨name, nonempty, letters, ?_⟩
    rw [dropFront?_eq_some_iff.mp inFront, List.append_assoc]
    exact (List.prefix_append_right_inj label).mpr closed
  · rintro ⟨name, nonempty, letters, rest, rfl⟩
    refine ⟨name ++ ['}'] ++ rest, dropFront?_eq_some_iff.mpr (by simp), ?_⟩
    exact nameAndBrace_iff.mpr ⟨name, nonempty, letters, rest, rfl⟩

theorem isMarkerLine_iff {line : List Char} : isMarkerLine line = true ↔ CarriesMarker line := by
  induction line with
  | nil =>
      simp [isMarkerLine, CarriesMarker]
  | cons c line inductionHypothesis =>
      rw [isMarkerLine, Bool.or_eq_true, inductionHypothesis, markerAtFront, Bool.or_eq_true,
        any_nameAndBrace_dropFront?_iff, any_nameAndBrace_dropFront?_iff]
      unfold CarriesMarker
      simp only [List.infix_cons_iff]
      constructor
      · rintro ((⟨name, some, letters, front⟩ | ⟨name, some, letters, front⟩) |
          ⟨name, some, letters, later | later⟩)
        · exact ⟨name, some, letters, Or.inl (Or.inl front)⟩
        · exact ⟨name, some, letters, Or.inr (Or.inl front)⟩
        · exact ⟨name, some, letters, Or.inl (Or.inr later)⟩
        · exact ⟨name, some, letters, Or.inr (Or.inr later)⟩
      · rintro ⟨name, some, letters, (front | later) | (front | later)⟩
        · exact Or.inl (Or.inl ⟨name, some, letters, front⟩)
        · exact Or.inr ⟨name, some, letters, Or.inl later⟩
        · exact Or.inl (Or.inr ⟨name, some, letters, front⟩)
        · exact Or.inr ⟨name, some, letters, Or.inr later⟩

instance (line : List Char) : Decidable (CarriesMarker line) :=
  decidable_of_iff _ isMarkerLine_iff

/-- Lines outside every region, and the region behind them: the line that opens it, the lines in it,
and the line that closes it. -/
structure Passage where
  before : List (List Char)
  opening : List Char
  inner : List (List Char)
  closing : List Char

namespace Passage

def lines (p : Passage) : List (List Char) := p.before ++ p.opening :: p.inner ++ [p.closing]

/-- The lines of the region that belong to the excerpt. -/
def kept (p : Passage) : List (List Char) := p.inner.filter fun line => ¬ CarriesMarker line

/-- Whether the markers of a passage are those of an excerpt. -/
structure IsMarked (id : String) (p : Passage) : Prop where
  before : ∀ line ∈ p.before, IsUnmarked id line
  opening : startMarker id <:+: p.opening
  inner : ∀ line ∈ p.inner, ¬ endMarker id <:+: line
  closing : endMarker id <:+: p.closing

end Passage

/-- Whether lines are made of marked passages and of further lines behind them. -/
structure HavePassages (id : String) (lines : List (List Char)) (passages : List Passage)
    (rest : List (List Char)) : Prop where
  marked : ∀ p ∈ passages, p.IsMarked id
  divided : lines = passages.flatMap Passage.lines ++ rest

/-- The shape of the lines of a file that an answer of the reader stands for. -/
def IsReading (id : String) (lines : List (List Char)) :
    Except ExcerptError (List (List Char)) → Prop
  | .ok kept => ∃ passages rest, passages ≠ [] ∧ HavePassages id lines passages rest ∧
      (∀ line ∈ rest, IsUnmarked id line) ∧ kept = passages.flatMap Passage.kept
  | .error (.endBeforeStart other) => other = id ∧ ∃ passages before line after,
      HavePassages id lines passages (before ++ line :: after) ∧
      (∀ line ∈ before, IsUnmarked id line) ∧
      endMarker id <:+: line ∧ ¬ startMarker id <:+: line
  | .error (.unterminated other) => other = id ∧ ∃ passages before opening inner,
      HavePassages id lines passages (before ++ opening :: inner) ∧
      (∀ line ∈ before, IsUnmarked id line) ∧ startMarker id <:+: opening ∧
      ∀ line ∈ inner, ¬ endMarker id <:+: line
  | .error (.notFound other) => other = id ∧ ∀ line ∈ lines, IsUnmarked id line

/-! ## What the reader answers -/

section Reader

variable {id : String} {line : List Char} {rest : List (List Char)}

theorem regionLines_opening (found : Bool) (opening : startMarker id <:+: line) :
    regionLines id (.outside found) (line :: rest) = regionLines id .inside rest := by
  rw [regionLines, if_pos (opens_iff.mpr opening)]

theorem regionLines_stray (found : Bool) (stray : endMarker id <:+: line)
    (notOpening : ¬ startMarker id <:+: line) :
    regionLines id (.outside found) (line :: rest) = .error (.endBeforeStart id) := by
  rw [regionLines, if_neg (opens_iff.not.mpr notOpening), if_pos (closes_iff.mpr stray)]

theorem regionLines_closing (closing : endMarker id <:+: line) :
    regionLines id .inside (line :: rest) = regionLines id (.outside true) rest := by
  rw [regionLines, if_pos (closes_iff.mpr closing)]

/-- Lines without a marker are passed over outside every region. -/
theorem regionLines_unmarked (found : Bool) {before : List (List Char)}
    (unmarked : ∀ line ∈ before, IsUnmarked id line) :
    regionLines id (.outside found) (before ++ rest) = regionLines id (.outside found) rest := by
  induction before with
  | nil => rfl
  | cons line before inductionHypothesis =>
      have here := unmarked line List.mem_cons_self
      rw [List.cons_append, regionLines, if_neg (opens_iff.not.mpr here.1),
        if_neg (closes_iff.not.mpr here.2)]
      exact inductionHypothesis fun other member =>
        unmarked other (List.mem_cons_of_mem line member)

/-- Inside a region, lines are kept up to the end marker if they carry no other marker. -/
theorem regionLines_inner {inner : List (List Char)}
    (noEnd : ∀ line ∈ inner, ¬ endMarker id <:+: line) :
    regionLines id .inside (inner ++ rest) =
      (inner.filter (fun line => ¬ CarriesMarker line) ++ ·) <$> regionLines id .inside rest := by
  induction inner with
  | nil => exact (id_map _).symm
  | cons line inner inductionHypothesis =>
      have later := inductionHypothesis fun other member =>
        noEnd other (List.mem_cons_of_mem line member)
      have here := closes_iff.not.mpr (noEnd line List.mem_cons_self)
      rw [List.cons_append, regionLines, if_neg here, later]
      by_cases carries : CarriesMarker line
      · rw [if_pos (isMarkerLine_iff.mpr carries), List.filter_cons_of_neg (by simpa using carries)]
      · rw [if_neg (isMarkerLine_iff.not.mpr carries),
          List.filter_cons_of_pos (by simpa using carries), Functor.map_map]
        rfl

theorem regionLines_passage {p : Passage} (marked : p.IsMarked id) (found : Bool) :
    regionLines id (.outside found) (p.lines ++ rest) =
      (p.kept ++ ·) <$> regionLines id (.outside true) rest := by
  have divided : p.lines ++ rest = p.before ++ p.opening :: (p.inner ++ p.closing :: rest) := by
    simp [Passage.lines]
  rw [divided, regionLines_unmarked found marked.before, regionLines_opening found marked.opening,
    regionLines_inner marked.inner, regionLines_closing marked.closing]
  rfl

theorem regionLines_passages {passages : List Passage} (marked : ∀ p ∈ passages, p.IsMarked id)
    (found : Bool) :
    regionLines id (.outside found) (passages.flatMap Passage.lines ++ rest) =
      (passages.flatMap Passage.kept ++ ·) <$>
        regionLines id (.outside (found || !passages.isEmpty)) rest := by
  induction passages generalizing found with
  | nil =>
      rw [List.isEmpty_nil, Bool.not_true, Bool.or_false]
      exact (id_map _).symm
  | cons p passages inductionHypothesis =>
      have later := inductionHypothesis (fun q member => marked q (List.mem_cons_of_mem p member))
        true
      rw [List.flatMap_cons, List.append_assoc, regionLines_passage (marked p List.mem_cons_self),
        later, Functor.map_map]
      simp

/-- What the reader has kept is lost if it ends with an error. -/
theorem regionLines_error {lines : List (List Char)} {passages : List Passage} {e : ExcerptError}
    (shape : HavePassages id lines passages rest)
    (failed : ∀ found, regionLines id (.outside found) rest = .error e) :
    regionLines id (.outside false) lines = .error e := by
  rw [shape.divided, regionLines_passages shape.marked, failed]
  rfl

/-- The reader answers lines of each shape as it should. -/
theorem regionLines_of_isReading {lines : List (List Char)}
    {answer : Except ExcerptError (List (List Char))} (reading : IsReading id lines answer) :
    regionLines id (.outside false) lines = answer := by
  match answer, reading with
  | .ok kept, ⟨passages, rest, nonempty, shape, unmarked, same⟩ =>
      have found : (!passages.isEmpty) = true := by simpa using nonempty
      have last : regionLines id (.outside true) (rest ++ []) = regionLines id (.outside true) [] :=
        regionLines_unmarked true unmarked
      rw [List.append_nil] at last
      rw [shape.divided, regionLines_passages shape.marked, Bool.false_or, found, last, same,
        regionLines]
      exact congrArg Except.ok (List.append_nil _)
  | .error (.endBeforeStart _), ⟨rfl, _, _, _, _, shape, unmarked, stray, notOpening⟩ =>
      apply regionLines_error shape
      intro found
      rw [regionLines_unmarked found unmarked, regionLines_stray found stray notOpening]
  | .error (.unterminated _), ⟨rfl, _, _, _, inner, shape, unmarked, opening, noEnd⟩ =>
      apply regionLines_error shape
      intro found
      have last : regionLines id .inside (inner ++ []) = _ := regionLines_inner noEnd
      rw [List.append_nil, regionLines] at last
      rw [regionLines_unmarked found unmarked, regionLines_opening found opening, last]
      rfl
  | .error (.notFound _), ⟨rfl, unmarked⟩ =>
      have last : regionLines id (.outside false) (lines ++ []) = _ :=
        regionLines_unmarked false unmarked
      rw [List.append_nil] at last
      rw [last, regionLines]

end Reader

/-- A passage in front of lines of some shape leaves them their shape, except that a region has been
found now. -/
theorem exists_isReading_passage {id : String} {p : Passage} (marked : p.IsMarked id)
    {lines : List (List Char)} (reading : ∃ answer, IsReading id lines answer) :
    ∃ answer, IsReading id (p.lines ++ lines) answer := by
  have further : ∀ {passages rest}, HavePassages id lines passages rest →
      HavePassages id (p.lines ++ lines) (p :: passages) rest := by
    intro passages rest shape
    refine ⟨List.forall_mem_cons.mpr ⟨marked, shape.marked⟩, ?_⟩
    rw [shape.divided, List.flatMap_cons, List.append_assoc]
  match reading with
  | ⟨.ok _, passages, rest, _, shape, unmarked, _⟩ =>
      exact ⟨.ok _, p :: passages, rest, List.cons_ne_nil p passages, further shape, unmarked, rfl⟩
  | ⟨.error (.endBeforeStart _), _, passages, before, line, after, shape, stray⟩ =>
      exact ⟨.error (.endBeforeStart id), rfl, p :: passages, before, line, after, further shape,
        stray⟩
  | ⟨.error (.unterminated _), _, passages, before, opening, inner, shape, unclosed⟩ =>
      exact ⟨.error (.unterminated id), rfl, p :: passages, before, opening, inner, further shape,
        unclosed⟩
  | ⟨.error (.notFound _), _, unmarked⟩ =>
      exact ⟨.ok _, [p], lines, List.cons_ne_nil p [], ⟨by simpa using marked, by simp⟩, unmarked,
        rfl⟩

theorem exists_isReading (id : String) (lines : List (List Char)) :
    ∃ answer, IsReading id lines answer := by
  have noPassages : ∀ {rest}, HavePassages id rest [] rest := ⟨by simp, by simp⟩
  -- The induction is on the number of lines: what follows a region is read like a file of its own.
  induction count : lines.length using Nat.strong_induction_on generalizing lines with
  | _ n inductionHypothesis =>
      subst count
      cases marks : lines.find? fun line => opens id line || closes id line with
      | none =>
          rw [List.find?_eq_none] at marks
          refine ⟨.error (.notFound id), rfl, ?_⟩
          intro line member
          simpa [IsUnmarked, ← opens_iff, ← closes_iff] using marks line member
      | some line =>
          rcases List.find?_eq_some_iff_append.mp marks with ⟨marked, before, rest, rfl, earlier⟩
          have unmarked : ∀ line ∈ before, IsUnmarked id line := by
            intro line member
            simpa [IsUnmarked, ← opens_iff, ← closes_iff] using earlier line member
          by_cases opening : startMarker id <:+: line
          · cases ends : rest.find? (closes id) with
            | none =>
                rw [List.find?_eq_none] at ends
                refine ⟨.error (.unterminated id), rfl, [], before, line, rest, noPassages,
                  unmarked, opening, ?_⟩
                intro other member
                simpa [← closes_iff] using ends other member
            | some closing =>
                rcases List.find?_eq_some_iff_append.mp ends with ⟨closes, inner, after, rfl, noEnd⟩
                have isMarked : Passage.IsMarked id ⟨before, line, inner, closing⟩ := by
                  refine ⟨unmarked, opening, ?_, closes_iff.mp closes⟩
                  intro other member
                  simpa [← closes_iff] using noEnd other member
                have shorter :
                    after.length < (before ++ line :: (inner ++ closing :: after)).length := by
                  simp only [List.length_append, List.length_cons]
                  omega
                have later := exists_isReading_passage isMarked
                  (inductionHypothesis after.length shorter after rfl)
                simpa [Passage.lines] using later
          · have stray : endMarker id <:+: line := by
              simpa [opens_iff, closes_iff, opening] using marked
            exact ⟨.error (.endBeforeStart id), rfl, [], before, line, rest, noPassages, unmarked,
              stray, opening⟩

/-- The answer of the reader tells the shape of the lines, and the other way round. -/
theorem regionLines_eq_iff {id : String} {lines : List (List Char)}
    {answer : Except ExcerptError (List (List Char))} :
    regionLines id (.outside false) lines = answer ↔ IsReading id lines answer := by
  constructor
  · rintro rfl
    rcases exists_isReading id lines with ⟨answer, reading⟩
    rw [regionLines_of_isReading reading]
    exact reading
  · exact regionLines_of_isReading

/-! ## Excerpts -/

theorem extract_of_ne_empty {content : String} (nonempty : content ≠ "") (id : String) :
    extract content id = (fun lines => String.ofList (joinLines lines)) <$>
      regionLines id (.outside false) (sourceLines content) := by
  rw [extract, if_neg (by simpa using nonempty)]

theorem extract_eq_ok_iff {content : String} (nonempty : content ≠ "") {id text : String} :
    extract content id = .ok text ↔ ∃ kept, IsReading id (sourceLines content) (.ok kept) ∧
      text = String.ofList (joinLines kept) := by
  rw [extract_of_ne_empty nonempty]
  cases read : regionLines id (.outside false) (sourceLines content) with
  | ok kept =>
      have reading := regionLines_eq_iff.mp read
      constructor
      · intro same
        exact ⟨kept, reading, (Except.ok.inj same).symm⟩
      · rintro ⟨other, readsOther, rfl⟩
        rw [← Except.ok.inj (read.symm.trans (regionLines_eq_iff.mpr readsOther))]
        rfl
  | error e =>
      constructor
      · intro same
        cases same
      · rintro ⟨other, readsOther, -⟩
        cases read.symm.trans (regionLines_eq_iff.mpr readsOther)

theorem extract_eq_error_iff {content : String} (nonempty : content ≠ "") {id : String}
    {e : ExcerptError} :
    extract content id = .error e ↔ IsReading id (sourceLines content) (.error e) := by
  rw [extract_of_ne_empty nonempty, ← regionLines_eq_iff]
  cases regionLines id (.outside false) (sourceLines content) with
  | ok kept =>
      constructor
      · intro same
        cases same
      · intro same
        cases same
  | error e' =>
      constructor
      · intro same
        rw [Except.error.inj same]
      · intro same
        rw [Except.error.inj same]
        rfl

/-- What the excerpt of a file is, and when there is none.  There is one exactly if the lines of the
file are passages with at least one region, and lines without a marker behind them; it has the lines
of all regions that carry no marker at all.  There is none exactly if an end marker stands outside
every region on a line that has no start marker, or the last region that is opened is not closed, or
no line has a marker of the excerpt. -/
theorem extract_iff_passages (content id : String) (nonempty : content ≠ "") :
    (∀ text, extract content id = .ok text ↔ ∃ passages rest, passages ≠ [] ∧
      HavePassages id (sourceLines content) passages rest ∧
      (∀ line ∈ rest, IsUnmarked id line) ∧
      text = String.ofList (joinLines (passages.flatMap Passage.kept))) ∧
    (extract content id = .error (.endBeforeStart id) ↔ ∃ passages before line after,
      HavePassages id (sourceLines content) passages (before ++ line :: after) ∧
      (∀ line ∈ before, IsUnmarked id line) ∧
      endMarker id <:+: line ∧ ¬ startMarker id <:+: line) ∧
    (extract content id = .error (.unterminated id) ↔ ∃ passages before opening inner,
      HavePassages id (sourceLines content) passages (before ++ opening :: inner) ∧
      (∀ line ∈ before, IsUnmarked id line) ∧ startMarker id <:+: opening ∧
      ∀ line ∈ inner, ¬ endMarker id <:+: line) ∧
    (extract content id = .error (.notFound id) ↔
      ∀ line ∈ sourceLines content, IsUnmarked id line) := by
  refine ⟨?_, ?_, ?_, ?_⟩
  · intro text
    rw [extract_eq_ok_iff nonempty]
    constructor
    · rintro ⟨kept, ⟨passages, rest, regions, shape, unmarked, rfl⟩, rfl⟩
      exact ⟨passages, rest, regions, shape, unmarked, rfl⟩
    · rintro ⟨passages, rest, regions, shape, unmarked, rfl⟩
      exact ⟨_, ⟨passages, rest, regions, shape, unmarked, rfl⟩, rfl⟩
  · rw [extract_eq_error_iff nonempty, IsReading, and_iff_right rfl]
  · rw [extract_eq_error_iff nonempty, IsReading, and_iff_right rfl]
  · rw [extract_eq_error_iff nonempty, IsReading, and_iff_right rfl]

/-- A region that is opened and closed by lines with both of its markers, and holds a line with
another marker and an empty line. -/
def crowdedPassage : Passage where
  before := ["x".toList]
  opening := "fragment-end\x7bf\x7d fragment-start\x7bf\x7d".toList
  inner := ["a".toList, "fragment-start\x7bg\x7d".toList, []]
  closing := "fragment-start\x7bf\x7d fragment-end\x7bf\x7d".toList

def crowdedFile : String :=
  "x\r\nfragment-end\x7bf\x7d fragment-start\x7bf\x7d\na\nfragment-start\x7bg\x7d\n\r\n" ++
    "fragment-start\x7bf\x7d fragment-end\x7bf\x7d\n"

/-- The region is found, and it loses the line with the other marker. -/
theorem extract_crowdedFile : crowdedFile ≠ "" ∧ extract crowdedFile "f" = .ok "a\n" := by
  have nonempty : crowdedFile ≠ "" := by decide
  have isMarked : crowdedPassage.IsMarked "f" := by
    refine ⟨?_, ?_, ?_, ?_⟩ <;> decide +kernel
  have shape : HavePassages "f" (sourceLines crowdedFile) [crowdedPassage] [[]] :=
    ⟨by simpa using isMarked, by decide +kernel⟩
  have unmarked : ∀ line ∈ [[]], IsUnmarked "f" line := by decide +kernel
  refine ⟨nonempty, ((extract_iff_passages crowdedFile "f" nonempty).1 "a\n").mpr ?_⟩
  exact ⟨[crowdedPassage], [[]], List.cons_ne_nil _ _, shape, unmarked, by decide +kernel⟩

end Excerpt
end Folio
