import Folio.Table
import Folio.Text.Occurrence

namespace Folio

/-!
# Variables

A page, and the path of an embedded file, may name variables as `%NAME%`.  A name is a run of ASCII
letters, digits and low lines.  Substitution is one pass from left to right: a value that has been
put in is never read again, so values may hold percent signs.

There are two ways to substitute.  `VariableToken.replaceWith` asks a resolver about every complete
token and writes a marker where there is no answer.  `Variables.apply` writes the values of a
validated table and leaves a token with an unknown name alone; its closing percent sign may then
open another token.  It searches from token to token and copies what is between two known ones in
one piece, so it keeps two places of the text: up to where it has written, and from where it goes on
searching.
-/

/-- Whether a character may stand in the name of a variable. -/
def isVariableChar (c : Char) : Bool := c.isAlphanum || c == '_'

def isVariableName (name : String) : Bool := !name.isEmpty && name.toList.all isVariableChar

/-- The names that are not names of variables, in the order given. -/
structure InvalidNames where
  names : List String
  deriving DecidableEq

namespace InvalidNames

def message (e : InvalidNames) : String :=
  "Variable names must match [A-Za-z0-9_], offending names: " ++
    ", ".intercalate e.names ++ "."

end InvalidNames

/-- Accept a list of names, or say which of them are not names of variables. -/
def checkVariableNames (names : List String) : Except InvalidNames Unit :=
  match names.filter fun n => !isVariableName n with
  | [] => .ok ()
  | bad => .error ⟨bad⟩

theorem checkVariableNames_eq_ok_iff {names : List String} :
    checkVariableNames names = .ok () ↔ ∀ n ∈ names, isVariableName n = true := by
  unfold checkVariableNames
  split
  · next h =>
      simp only [List.filter_eq_nil_iff, Bool.not_eq_true', Bool.not_eq_false] at h
      simpa using h
  · next h =>
      constructor
      · intro e; cases e
      · intro all
        exact absurd (List.filter_eq_nil_iff.2 fun n hn => by simp [all n hn]) h

/-- The number of bytes in which a text is stored. -/
def byteLength (cs : List Char) : Nat := cs.foldr (fun c n => c.utf8Size + n) 0

namespace VariableToken

/-- The name of the complete token at the front of a text. -/
def nameAtFront? : List Char → Option (List Char)
  | '%' :: cs =>
    let name := cs.takeWhile isVariableChar
    if name.isEmpty then none
    else if (cs.dropWhile isVariableChar).head? = some '%' then some name else none
  | _ => none

/-- A complete token in a text: how many characters are in front of it, and its name. -/
structure Found where
  start : Nat
  name : List Char

def Found.key (t : Found) : String := String.ofList t.name

/-- How many characters are in front of what follows the token. -/
def Found.stop (t : Found) : Nat := t.start + (t.name.length + 2)

/-- The first complete token of a text in front of which there are `place` characters. -/
def firstFrom? : Nat → List Char → Option Found
  | _, [] => none
  | place, c :: cs =>
    match nameAtFront? (c :: cs) with
    | some name => some ⟨place, name⟩
    | none => firstFrom? (place + 1) cs

/-- The first complete token of a text that begins at a place or behind it. -/
def find? (text : List Char) (place : Nat) : Option Found := firstFrom? place (text.drop place)

theorem bounds_of_firstFrom? {place : Nat} {cs : List Char} {t : Found}
    (found : firstFrom? place cs = some t) : place ≤ t.start ∧ t.start < place + cs.length := by
  induction cs generalizing place with
  | nil => cases found
  | cons c cs inductionHypothesis =>
      rw [firstFrom?] at found
      rw [List.length_cons]
      split at found
      · rw [← Option.some.inj found]
        simp only
        omega
      · have bounds := inductionHypothesis found
        omega

theorem bounds_of_find? {text : List Char} {place : Nat} {t : Found}
    (found : find? text place = some t) : place ≤ t.start ∧ t.start < text.length := by
  have bounds := bounds_of_firstFrom? found
  rw [List.length_drop] at bounds
  omega

/-- What stands for a token that the resolver knows nothing about. -/
def missingValue : List Char := "undefined".toList

/-- What is written for a token. -/
def writtenFor (answer : Option String) : List Char :=
  (answer.map String.toList).getD missingValue

/-- The text with all tokens replaced, and the questions that were asked. -/
structure Replacement where
  text : List Char
  calls : List (String × Nat)

/-- Replace the complete tokens from left to right, `skip` characters of the last one still to be
passed over and the next character standing `offset` bytes from the start.  The resolver may go by
what it has been asked before. -/
def replaceFrom {σ : Type} (resolve : String → Nat → StateM σ (Option String)) :
    Nat → Nat → List Char → StateM σ Replacement
  | _, _, [] => return ⟨[], []⟩
  | offset, skip + 1, c :: cs => replaceFrom resolve (offset + c.utf8Size) skip cs
  | offset, 0, c :: cs =>
    match nameAtFront? (c :: cs) with
    | some name => do
      let answer ← resolve (String.ofList name) offset
      let rest ← replaceFrom resolve (offset + c.utf8Size) (name.length + 1) cs
      return ⟨writtenFor answer ++ rest.text, (String.ofList name, offset) :: rest.calls⟩
    | none => do
      let rest ← replaceFrom resolve (offset + c.utf8Size) 0 cs
      return ⟨c :: rest.text, rest.calls⟩

/-- Ask the resolver about every complete token, with its byte offset, and write its answers. -/
def replaceWith {σ : Type} (text : String) (resolve : String → Nat → StateM σ (Option String)) :
    StateM σ Replacement :=
  replaceFrom resolve 0 0 text.toList

/-- Replace the tokens by the answers of a resolver that remembers nothing. -/
def replaceAll (text : String) (resolve : String → Nat → Option String) : Replacement :=
  ((replaceWith (σ := Unit) text fun name offset => pure (resolve name offset)).run ()).1

end VariableToken

/-! ## Tables of variables -/

/-- A table of variables.  The proof field rules out a name that no token could spell. -/
structure Variables where
  dict : Dict String
  valid : ∀ name ∈ dict.keys, isVariableName name = true
  deriving DecidableEq

namespace Variables

def empty : Variables := ⟨Dict.empty, by simp [Table.keys, Table.empty]⟩

instance : Inhabited Variables := ⟨empty⟩

/-- Accept a dictionary all of whose keys are names of variables. -/
def ofDict (dict : Dict String) : Except InvalidNames Variables :=
  match h : checkVariableNames dict.keys with
  | .ok () => .ok ⟨dict, checkVariableNames_eq_ok_iff.1 h⟩
  | .error e => .error e

theorem ofDict_eq_ok_iff {dict : Dict String} {vars : Variables} :
    ofDict dict = .ok vars ↔ vars.dict = dict := by
  unfold ofDict
  split
  · constructor
    · intro same
      rw [← Except.ok.inj same]
    · rintro rfl
      rfl
  · next e refused =>
      constructor
      · intro impossible
        cases impossible
      · rintro rfl
        rw [checkVariableNames_eq_ok_iff.mpr vars.valid] at refused
        cases refused

/-- The table for a dictionary that may be absent; without one there are no variables. -/
def ofOptional (dict : Option (Dict String)) : Except InvalidNames Variables :=
  match dict with
  | none => .ok empty
  | some dict => ofDict dict

def get? (vars : Variables) (name : String) : Option String := vars.dict.get? name

def isEmpty (vars : Variables) : Bool := vars.dict.isEmpty

def entries (vars : Variables) : List (String × String) := vars.dict.entries

/-- The table with one more name, or another value for a name that it has. -/
def insert (vars : Variables) (name value : String) : Except InvalidNames Variables :=
  ofDict (vars.dict.insert name value)

theorem valid_insertAll (d : Dict String) (l : List (String × String))
    (hd : ∀ name ∈ d.keys, isVariableName name = true)
    (hl : ∀ e ∈ l, isVariableName e.1 = true) :
    ∀ name ∈ (d.insertAll l).keys, isVariableName name = true := by
  intro name member
  rcases Table.mem_keys_insertAll member with old | new
  · exact hd name old
  · rcases List.mem_map.1 new with ⟨e, inList, rfl⟩
    exact hl e inList

/-- A value can be given to every name of a variable, and to no other name. -/
theorem exists_insert_eq_ok_iff (vars : Variables) (name value : String) :
    (∃ vars', vars.insert name value = .ok vars') ↔ isVariableName name = true := by
  constructor
  · rintro ⟨vars', inserted⟩
    apply vars'.valid
    rw [ofDict_eq_ok_iff.1 inserted, Table.keys_insert]
    split
    · assumption
    · simp
  · intro valid
    refine ⟨⟨vars.dict.insert name value, ?_⟩, ofDict_eq_ok_iff.2 rfl⟩
    exact valid_insertAll vars.dict [(name, value)] vars.valid (by simpa using valid)

/-- Two tables in one; where both have a name, the second has the value.  If the names of the two
were refused together, the second would stand for both. -/
def merge (first second : Variables) : Variables :=
  if second.isEmpty then first
  else
    match ofDict (first.dict.insertAll second.entries) with
    | .ok vars => vars
    | .error _ => second

/-- The names of two tables are never refused together. -/
theorem exists_ofDict_insertAll_eq_ok (first second : Variables) :
    ∃ vars, ofDict (first.dict.insertAll second.entries) = .ok vars :=
  ⟨⟨first.dict.insertAll second.entries,
    valid_insertAll _ _ first.valid fun e h => second.valid e.1 (List.mem_map_of_mem h)⟩,
    ofDict_eq_ok_iff.mpr rfl⟩

theorem dict_merge (first second : Variables) :
    (first.merge second).dict = first.dict.insertAll second.entries := by
  rw [merge]
  split
  · next empty => rw [entries, List.isEmpty_iff.mp empty, Table.insertAll, List.foldl_nil]
  · rcases exists_ofDict_insertAll_eq_ok first second with ⟨vars, accepted⟩
    rw [accepted]
    exact ofDict_eq_ok_iff.mp accepted

theorem get?_merge (first second : Variables) (name : String) :
    (first.merge second).get? name = (second.get? name).or (first.get? name) := by
  rw [get?, dict_merge, entries, Table.get?_insertAll _ second.dict.nodup]
  rfl

/-- A text with its known tokens replaced, and each unknown name with the byte offset of the first
token that spells it. -/
structure Substitution where
  text : List Char
  unknown : List (String × Nat)

/-- How far substitution has come: what it has written, the names that it has reported, up to where
in the text it has written, and from where it searches for the next token. -/
structure Progress where
  output : List Char := []
  unknown : List (String × Nat) := []
  last : Nat := 0
  place : Nat := 0

/-- A name is reported once. -/
def report (unknown : List (String × Nat)) (name : String) (offset : Nat) : List (String × Nat) :=
  if name ∈ unknown.map Prod.fst then unknown else unknown ++ [(name, offset)]

/-- Deal with the next token.  Behind one with an unknown name only its opening percent sign is
passed over. -/
def step (vars : Variables) (text : List Char) (p : Progress) (token : VariableToken.Found) :
    Progress :=
  match vars.get? token.key with
  | some value =>
    { p with
      output := p.output ++ (text.take token.start).drop p.last ++ value.toList
      last := token.stop
      place := token.stop }
  | none =>
    { p with
      unknown := report p.unknown token.key (byteLength (text.take token.start))
      place := token.start + 1 }

/-- The search goes on nearer to the end of the text. -/
theorem sub_place_step_lt (vars : Variables) {text : List Char} {p : Progress}
    {token : VariableToken.Found} (found : VariableToken.find? text p.place = some token) :
    text.length - (vars.step text p token).place < text.length - p.place := by
  have bounds := VariableToken.bounds_of_find? found
  have further : token.start < (vars.step text p token).place := by
    unfold step VariableToken.Found.stop
    split
    · simp only
      omega
    · exact Nat.lt_succ_self _
  omega

/-- Substitute from token to token until there is none left. -/
def run (vars : Variables) (text : List Char) (p : Progress) : Substitution :=
  match _ : VariableToken.find? text p.place with
  | none => ⟨p.output ++ text.drop p.last, p.unknown⟩
  | some token => run vars text (vars.step text p token)
termination_by text.length - p.place
decreasing_by exact vars.sub_place_step_lt ‹_›

/-- Substitute the known tokens of a text.  An empty table reads nothing and reports nothing. -/
def apply (vars : Variables) (text : String) : Substitution :=
  if vars.isEmpty then ⟨text.toList, []⟩ else vars.run text.toList {}

end Variables

end Folio
