import Folio.Proofs.VariableScan

namespace Folio

/-!
# Replacement by a resolver

A text is cut at its tokens from left to right.  In front of each token that is taken there is a
stretch in which no token begins, and none begins in what is left behind the last one.  The scan
goes on behind the closing percent sign of a token, so of two tokens that share a percent sign the
first is taken.  A text can be cut like that in one way only, and the answers have no part in it.

Replacement asks about the tokens of the cut text, one after the other, and puts the answers between
the stretches.  This holds for every resolver, also for one whose answers depend on what it has been
asked before.

Where a table knows the names of all these tokens, substitution takes the same tokens.  It would
differ behind a token with an unknown name only, whose closing percent sign it tries again.
-/

namespace VariableToken

/-- A token of a text, and the stretch between it and the token in front of it. -/
@[ext] structure Cut where
  stretch : List Char
  name : String

def Cut.text (cut : Cut) : List Char := cut.stretch ++ spelled cut.name

/-- Whether a text is cut at its tokens from left to right, and what is left of it. -/
inductive IsScan : List Char → List Cut → List Char → Prop where
  | rest {text : List Char} (silent : IsSilent text []) : IsScan text [] text
  | token {cut : Cut} {behind rest : List Char} {cuts : List Cut}
      (valid : isVariableName cut.name = true)
      (silent : IsSilent cut.stretch (spelled cut.name ++ behind))
      (later : IsScan behind cuts rest) : IsScan (cut.text ++ behind) (cut :: cuts) rest

/-- What is asked about the tokens: the name of each, and how many bytes are in front of it. -/
def questions : Nat → List Cut → List (String × Nat)
  | _, [] => []
  | offset, cut :: cuts =>
    (cut.name, offset + byteLength cut.stretch) :: questions (offset + byteLength cut.text) cuts

/-- The text with answers in the place of its tokens. -/
def filled (cuts : List Cut) (answers : List (Option String)) (rest : List Char) : List Char :=
  (List.zipWith (fun cut answer => cut.stretch ++ writtenFor answer) cuts answers).flatten ++ rest

theorem firstFrom?_append_of_isSilent (place : Nat) {front back : List Char}
    (silent : IsSilent front back) :
    firstFrom? place (front ++ back) = firstFrom? (place + front.length) back := by
  induction front generalizing place with
  | nil => rfl
  | cons c front inductionHypothesis =>
      rcases isSilent_cons_iff.mp silent with ⟨noToken, later⟩
      rw [List.cons_append, firstFrom?, noToken]
      simp only
      rw [inductionHypothesis (place + 1) later, List.length_cons]
      congr 1
      omega

theorem firstFrom?_of_isSilent (place : Nat) {text : List Char} (silent : IsSilent text []) :
    firstFrom? place text = none := by
  have search := firstFrom?_append_of_isSilent place silent
  rwa [List.append_nil] at search

/-- The first token of a text is that of its first cut. -/
theorem firstFrom?_text_append (place : Nat) {cut : Cut} {behind : List Char}
    (valid : isVariableName cut.name = true)
    (silent : IsSilent cut.stretch (spelled cut.name ++ behind)) :
    firstFrom? place (cut.text ++ behind) =
      some ⟨place + cut.stretch.length, cut.name.toList⟩ := by
  have atFront := nameAtFront?_spelled valid behind
  rw [Cut.text, List.append_assoc, firstFrom?_append_of_isSilent place silent]
  rw [spelled, List.cons_append] at atFront ⊢
  rw [firstFrom?, atFront]

/-- A text has no token, or it begins with a cut. -/
theorem isSilent_or_exists_cut (text : List Char) :
    IsSilent text [] ∨ ∃ cut behind, text = Cut.text cut ++ behind ∧
      isVariableName cut.name = true ∧ IsSilent cut.stretch (spelled cut.name ++ behind) := by
  cases found : firstFrom? 0 text with
  | none => exact Or.inl (isSilent_of_firstFrom?_eq_none found)
  | some token =>
      rcases exists_of_firstFrom? found with ⟨stretch, back, rfl, silent, -, atFront⟩
      rw [← String.toList_ofList (l := token.name)] at atFront
      rcases nameAtFront?_eq_some_toList_iff.mp atFront with ⟨valid, behind, rfl⟩
      exact Or.inr ⟨⟨stretch, token.key⟩, behind, (List.append_assoc _ _ _).symm, valid, silent⟩

theorem exists_isScan (text : List Char) : ∃ cuts rest, IsScan text cuts rest := by
  rcases isSilent_or_exists_cut text with silent | ⟨cut, behind, whole, valid, silent⟩
  · exact ⟨[], text, .rest silent⟩
  · have shorter : behind.length < text.length := by
      rw [whole, Cut.text, spelled]
      simp only [List.length_append, List.length_cons]
      omega
    rcases exists_isScan behind with ⟨cuts, rest, later⟩
    exact ⟨cut :: cuts, rest, whole ▸ .token valid silent later⟩
termination_by text.length

theorem IsScan.unique {text rest rest' : List Char} {cuts cuts' : List Cut}
    (scan : IsScan text cuts rest) (other : IsScan text cuts' rest') :
    cuts' = cuts ∧ rest' = rest := by
  induction scan generalizing cuts' with
  | rest silent =>
      cases other with
      | rest => exact ⟨rfl, rfl⟩
      | token valid' silent' later' =>
          have search := firstFrom?_of_isSilent 0 silent
          rw [firstFrom?_text_append 0 valid' silent'] at search
          cases search
  | @token cut behind rest cuts valid silent later inductionHypothesis =>
      have search := firstFrom?_text_append 0 valid silent
      generalize whole : cut.text ++ behind = text at other search
      cases other with
      | rest silent' =>
          rw [firstFrom?_of_isSilent 0 silent'] at search
          cases search
      | @token cut' behind' _ cuts' valid' silent' later' =>
          -- Both ways the first token is the one that the search finds.
          rw [firstFrom?_text_append 0 valid' silent'] at search
          rcases Found.mk.inj (Option.some.inj search) with ⟨sameStart, sameName⟩
          simp only [Nat.zero_add] at sameStart
          have name : cut'.name = cut.name := String.toList_inj.mp sameName
          rw [Cut.text, Cut.text, List.append_assoc, List.append_assoc, name] at whole
          rcases List.append_inj whole sameStart.symm with ⟨stretch, behinds⟩
          have sameBehind := List.append_cancel_left behinds
          subst sameBehind
          rcases inductionHypothesis later' with ⟨rfl, rfl⟩
          exact ⟨congrArg (· :: cuts') (Cut.ext stretch.symm name), rfl⟩

section Cuts

variable {text rest : List Char} {cuts : List Cut}

theorem IsScan.eq_flatMap_append (scan : IsScan text cuts rest) :
    text = cuts.flatMap Cut.text ++ rest := by
  induction scan with
  | rest => rfl
  | token valid silent later inductionHypothesis =>
      rw [List.flatMap_cons, List.append_assoc, ← inductionHypothesis]

/-- In a part of a text in which no token begins there is none. -/
theorem IsSilent.not_spelled_infix {front back : List Char} (silent : IsSilent front back)
    {name : String} (valid : isVariableName name = true) : ¬ spelled name <:+: front := by
  rintro ⟨before, behind, rfl⟩
  have begins := nameAtFront?_spelled valid (behind ++ back)
  rw [spelled, List.cons_append] at begins
  have none := silent before '%' (name.toList ++ ['%'] ++ behind) (by rw [spelled]; simp)
  rw [List.append_assoc, begins] at none
  cases none

theorem IsScan.not_spelled_infix (scan : IsScan text cuts rest) {name : String}
    (valid : isVariableName name = true) :
    (∀ cut ∈ cuts, ¬ spelled name <:+: cut.stretch) ∧ ¬ spelled name <:+: rest := by
  induction scan with
  | rest silent => exact ⟨nofun, silent.not_spelled_infix valid⟩
  | token _ silent _ inductionHypothesis =>
      refine ⟨List.forall_mem_cons.mpr ⟨silent.not_spelled_infix valid, ?_⟩, ?_⟩
      · exact inductionHypothesis.1
      · exact inductionHypothesis.2

theorem map_fst_questions (offset : Nat) (cuts : List Cut) :
    (questions offset cuts).map Prod.fst = cuts.map Cut.name := by
  induction cuts generalizing offset with
  | nil => rfl
  | cons cut cuts inductionHypothesis =>
      rw [questions, List.map_cons, List.map_cons, inductionHypothesis]

theorem byteLength_text (cut : Cut) :
    byteLength cut.text = byteLength cut.stretch + byteLength (spelled cut.name) :=
  byteLength_append _ _

/-- A token that is asked about stands in the text at the offset that is told. -/
theorem IsScan.of_mem_questions (scan : IsScan text cuts rest) (done : List Char)
    {question : String × Nat} (asked : question ∈ questions (byteLength done) cuts) :
    isVariableName question.1 = true ∧ ∃ before behind,
      done ++ text = before ++ spelled question.1 ++ behind ∧ byteLength before = question.2 := by
  induction scan generalizing done with
  | rest => cases asked
  | @token cut behind rest cuts valid silent later inductionHypothesis =>
      rw [questions] at asked
      rcases List.mem_cons.mp asked with rfl | askedLater
      · refine ⟨valid, done ++ cut.stretch, behind, ?_, byteLength_append _ _⟩
        simp only [Cut.text, List.append_assoc]
      · rw [← byteLength_append] at askedLater
        have stands := inductionHypothesis (done ++ cut.text) askedLater
        rwa [List.append_assoc] at stands

theorem le_of_mem_questions {offset : Nat} {cuts : List Cut} {question : String × Nat}
    (asked : question ∈ questions offset cuts) : offset ≤ question.2 := by
  induction cuts generalizing offset with
  | nil => cases asked
  | cons cut cuts inductionHypothesis =>
      rcases List.mem_cons.mp asked with rfl | askedLater
      · exact Nat.le_add_right _ _
      · exact Nat.le_trans (Nat.le_add_right _ _) (inductionHypothesis askedLater)

/-- No token begins before the end of one that is asked about earlier. -/
theorem pairwise_questions (offset : Nat) (cuts : List Cut) :
    (questions offset cuts).Pairwise fun earlier later =>
      earlier.2 + byteLength (spelled earlier.1) ≤ later.2 := by
  induction cuts generalizing offset with
  | nil => exact List.Pairwise.nil
  | cons cut cuts inductionHypothesis =>
      refine List.pairwise_cons.mpr ⟨?_, inductionHypothesis _⟩
      intro later asked
      have bound := le_of_mem_questions asked
      rw [byteLength_text] at bound
      simp only
      omega

end Cuts

/-! ## What is asked and written -/

section Replacing

variable {σ : Type} (resolve : String → Nat → StateM σ (Option String))

/-- The rest of a token is passed over. -/
theorem replaceFrom_skip (offset : Nat) (passed behind : List Char) :
    replaceFrom resolve offset passed.length (passed ++ behind) =
      replaceFrom resolve (offset + byteLength passed) 0 behind := by
  induction passed generalizing offset with
  | nil => rfl
  | cons c passed inductionHypothesis =>
      rw [List.length_cons, List.cons_append, replaceFrom, inductionHypothesis, Nat.add_assoc]
      rfl

/-- A stretch in which no token begins is copied, and nothing is asked. -/
theorem replaceFrom_append_of_isSilent (offset : Nat) {front back : List Char}
    (silent : IsSilent front back) :
    replaceFrom resolve offset 0 (front ++ back) = do
      let rest ← replaceFrom resolve (offset + byteLength front) 0 back
      return ⟨front ++ rest.text, rest.calls⟩ := by
  induction front generalizing offset with
  | nil => exact (bind_pure _).symm
  | cons c front inductionHypothesis =>
      rcases isSilent_cons_iff.mp silent with ⟨noToken, later⟩
      rw [List.cons_append, replaceFrom, noToken]
      simp only [inductionHypothesis (offset + c.utf8Size) later, bind_assoc, pure_bind,
        List.cons_append]
      rw [Nat.add_assoc]
      rfl

/-- The resolver is asked about a token, and the search goes on behind it. -/
theorem replaceFrom_spelled_append (offset : Nat) {name : String}
    (valid : isVariableName name = true) (behind : List Char) :
    replaceFrom resolve offset 0 (spelled name ++ behind) = do
      let answer ← resolve name offset
      let rest ← replaceFrom resolve (offset + byteLength (spelled name)) 0 behind
      return ⟨writtenFor answer ++ rest.text, (name, offset) :: rest.calls⟩ := by
  have atFront := nameAtFront?_spelled valid behind
  have passed := replaceFrom_skip resolve (offset + '%'.utf8Size) (name.toList ++ ['%']) behind
  rw [List.length_append, List.length_singleton, Nat.add_assoc] at passed
  rw [spelled, List.cons_append] at atFront ⊢
  rw [replaceFrom, atFront]
  simp only [String.ofList_toList, passed]
  rfl

theorem replaceFrom_of_isScan {text rest : List Char} {cuts : List Cut}
    (scan : IsScan text cuts rest) (offset : Nat) :
    replaceFrom resolve offset 0 text = do
      let answers ← (questions offset cuts).mapM fun question => resolve question.1 question.2
      return ⟨filled cuts answers rest, questions offset cuts⟩ := by
  induction scan generalizing offset with
  | @rest text silent =>
      have copied := replaceFrom_append_of_isSilent resolve offset silent
      rw [List.append_nil] at copied
      rw [copied, replaceFrom, questions, List.mapM_nil, pure_bind, pure_bind, List.append_nil]
      rfl
  | @token cut behind rest cuts valid silent later inductionHypothesis =>
      rw [Cut.text, List.append_assoc, replaceFrom_append_of_isSilent resolve offset silent,
        replaceFrom_spelled_append resolve _ valid, Nat.add_assoc, ← byteLength_text,
        inductionHypothesis, questions, List.mapM_cons]
      simp only [bind_assoc, pure_bind, filled, List.zipWith_cons_cons, List.flatten_cons,
        List.append_assoc]

end Replacing

/-- Replacement asks about the tokens of the scan from left to right, one after the other, and
about nothing else: whatever resolver there is, and whatever it remembers, the questions are those
of the one way to cut the text, and the answers stand where the tokens were.  Each question tells
the name of a token and the number of bytes in front of it, the tokens do not overlap, and between
them there is no other. -/
theorem replaceWith_asks_scan (text : String) :
    ∃ cuts rest, IsScan text.toList cuts rest ∧
      (∀ cuts' rest', IsScan text.toList cuts' rest' → cuts' = cuts ∧ rest' = rest) ∧
      text.toList = cuts.flatMap Cut.text ++ rest ∧
      (∀ (σ : Type) (resolve : String → Nat → StateM σ (Option String)),
        replaceWith text resolve = do
          let answers ← (questions 0 cuts).mapM fun question => resolve question.1 question.2
          return ⟨filled cuts answers rest, questions 0 cuts⟩) ∧
      (∀ question ∈ questions 0 cuts, isVariableName question.1 = true ∧ ∃ before behind,
        text.toList = before ++ spelled question.1 ++ behind ∧ byteLength before = question.2) ∧
      ((questions 0 cuts).Pairwise fun earlier later =>
        earlier.2 + byteLength (spelled earlier.1) ≤ later.2) ∧
      ∀ name, isVariableName name = true →
        (∀ cut ∈ cuts, ¬ spelled name <:+: cut.stretch) ∧ ¬ spelled name <:+: rest := by
  rcases exists_isScan text.toList with ⟨cuts, rest, scan⟩
  refine ⟨cuts, rest, scan, fun _ _ other => scan.unique other, scan.eq_flatMap_append, ?_, ?_,
    pairwise_questions 0 cuts, fun name valid => scan.not_spelled_infix valid⟩
  · intro σ resolve
    exact replaceFrom_of_isScan resolve scan 0
  · intro question asked
    exact scan.of_mem_questions [] asked

/-- A resolver that numbers the tokens, on a text in which tokens share a percent sign. -/
example :
    ((replaceWith "é%a%b%%c%" fun name _ => do
        let n ← getModify (· + 1)
        return if name = "c" then none else some (name ++ toString n)).run 7).1.text =
      "éa7b%undefined".toList := by
  decide +kernel

theorem replaceAll_of_isScan {text : String} {rest : List Char} {cuts : List Cut}
    (scan : IsScan text.toList cuts rest) (resolve : String → Nat → Option String) :
    replaceAll text resolve =
      ⟨filled cuts ((questions 0 cuts).map fun question => resolve question.1 question.2) rest,
        questions 0 cuts⟩ := by
  rw [replaceAll, replaceWith, replaceFrom_of_isScan _ scan, List.mapM_pure, pure_bind]
  rfl

end VariableToken

namespace Variables

open VariableToken

variable {vars : Variables}

/-- The scanner replaces the tokens of the cuts, if it knows them all, and meets no other name. -/
theorem places_of_isScan {text rest : List Char} {cuts : List Cut} (scan : IsScan text cuts rest)
    (known : ∀ cut ∈ cuts, (vars.get? cut.name).isSome) (offset : Nat) :
    (vars.places offset text).flatMap vars.emitted =
        filled cuts (cuts.map fun cut => vars.get? cut.name) rest ∧
      (vars.places offset text).filterMap vars.unknownAt? = [] := by
  induction scan generalizing offset with
  | @rest text silent =>
      rcases exists_places_of_isSilent vars offset silent with ⟨copied, goesOn, written, noNames⟩
      rw [List.append_nil, places, List.append_nil] at goesOn
      rw [goesOn]
      exact ⟨written, noNames⟩
  | @token cut behind rest cuts valid silent later inductionHypothesis =>
      rw [List.forall_mem_cons] at known
      rcases Option.isSome_iff_exists.mp known.1 with ⟨value, isValue⟩
      have atFront := nameAtFront?_spelled valid behind
      have found := vars.entryAtFront?_eq_some_iff.mpr ⟨atFront, isValue⟩
      have noName : ∀ offset, vars.unknownAt? ⟨offset, spelled cut.name ++ behind⟩ = none :=
        fun offset => unknownAt?_of_known atFront (by rw [String.ofList_toList, isValue])
      rcases exists_places_of_isSilent vars offset silent with ⟨copied, goesOn, written, noNames⟩
      rcases inductionHypothesis known.2
        (offset + byteLength cut.stretch + byteLength (spelled cut.name)) with
        ⟨writtenLater, noNamesLater⟩
      rw [Cut.text, List.append_assoc, goesOn, places_of_entry found, List.drop_left]
      constructor
      · rw [List.flatMap_append, written, List.flatMap_cons, writtenLater, emitted, found, filled,
          filled, List.map_cons, isValue, List.zipWith_cons_cons, List.flatten_cons]
        simp only [writtenFor, Option.map_some, Option.getD_some, List.append_assoc]
      · rw [List.filterMap_append, noNames, List.filterMap_cons_none (noName _), noNamesLater]
        rfl

/-- Where replacement is never at a loss, substitution writes the same and reports nothing. -/
theorem substitute_eq_replaceAll {text : String}
    (answered : ∀ question ∈ (replaceAll text fun name _ => vars.get? name).calls,
      (vars.get? question.1).isSome) :
    (vars.substitute text).value =
        String.ofList (replaceAll text fun name _ => vars.get? name).text ∧
      (vars.substitute text).notices = [] := by
  rcases exists_isScan text.toList with ⟨cuts, rest, scan⟩
  rw [replaceAll_of_isScan scan] at answered ⊢
  have known : ∀ cut ∈ cuts, (vars.get? cut.name).isSome := by
    intro cut member
    have named := List.mem_map_of_mem (f := Cut.name) member
    rw [← map_fst_questions 0] at named
    rcases List.mem_map.mp named with ⟨question, asked, same⟩
    exact same ▸ answered question asked
  have answers : ((questions 0 cuts).map fun question => vars.get? question.1) =
      cuts.map fun cut => vars.get? cut.name := by
    have mapped := congrArg (List.map vars.get?) (map_fst_questions 0 cuts)
    rwa [List.map_map, List.map_map] at mapped
  rcases places_of_isScan scan known 0 with ⟨written, noNames⟩
  constructor
  · rw [substitute, text_apply_eq_scan, written]
    simp only [answers]
  · rw [substitute, apply]
    split
    · rfl
    · rw [run_eq, reports, noNames]
      rfl

/-- A table all of whose names a text spells, with a value that spells a token. -/
def greetings : Variables :=
  ⟨⟨[("sth", "something"), ("to_replace", "%sth%"), ("00", " ")], by decide⟩, by decide⟩

theorem substitute_eq_replaceAll_greetings :
    (∀ question ∈ (replaceAll "é%sth% %to_replace%%00%with%00%%sth%"
        fun name _ => greetings.get? name).calls, (greetings.get? question.1).isSome) ∧
      (greetings.substitute "é%sth% %to_replace%%00%with%00%%sth%").value =
        "ésomething %sth% with something" ∧
      (greetings.substitute "é%sth% %to_replace%%00%with%00%%sth%").notices = [] := by
  have answered : ∀ question ∈ (replaceAll "é%sth% %to_replace%%00%with%00%%sth%"
      fun name _ => greetings.get? name).calls, (greetings.get? question.1).isSome := by
    decide +kernel
  rcases substitute_eq_replaceAll answered with ⟨value, notices⟩
  refine ⟨answered, value.trans ?_, notices⟩
  decide +kernel

end Variables

end Folio
