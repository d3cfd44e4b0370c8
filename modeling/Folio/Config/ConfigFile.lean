import Folio.Config.JsonText
import Folio.Config.Toml.Document
import Folio.Variable

namespace Folio

/-!
# Settings files

A settings file says something about some of the settings and nothing about the others.  What it
says is read in the order in which the entries stand, and the first entry that is wrong decides what
is reported.
-/

/-- The settings that a file sets. -/
structure ConfigFile where
  inputDir : Option String := none
  outputDir : Option String := none
  jobs : Option Nat := none
  highlightCode : Option Bool := none
  removeCommonIndent : Option Bool := none
  imageMaxWidth : Option Nat := none
  languages : Dict String := Dict.empty
  vars : Variables := .empty
  search : Option Bool := none
  deriving DecidableEq

/-- Why the content of a settings file is refused. -/
inductive ContentError where
  | malformed
  /-- All is well written, but for the names of variables. -/
  | invalidNames (names : InvalidNames)
  deriving DecidableEq

inductive ConfigNotation where
  | json
  | toml
  deriving DecidableEq

namespace Datum

/-- A setting that a null leaves unset. -/
def optional {α : Type} (read : Datum → Option α) : Datum → Option (Option α)
  | null => some none
  | d => (read d).map some

def asText : Datum → Option String
  | text s => some s
  | _ => none

def asFlag : Datum → Option Bool
  | flag b => some b
  | _ => none

/-- A whole number from zero up to a bound. -/
def asNumber (bound : Nat) : Datum → Option Nat
  | number n => if 0 ≤ n ∧ n ≤ (bound : Int) then some n.toNat else none
  | _ => none

def asDict : Datum → Option (Dict String)
  | table entries =>
    (entries.mapM fun (e : String × Datum) => (asText e.2).map fun s => (e.1, s)).map Dict.ofList
  | _ => none

/-- The entries for one key; the others do not matter. -/
def valuesAt (key : String) (entries : List (String × Datum)) : List Datum :=
  (entries.filter fun e => e.1 == key).map Prod.snd

/-- Whether the search index is on: a table with one entry, or a list with one element.  The index
is on unless it is switched off. -/
def asSearch (form : ConfigNotation) : Datum → Option Bool
  | table entries =>
    if !entriesHeld entries then none
    else
      match valuesAt "enable" entries with
      | [] => some true
      | [d] => asFlag d
      | _ => none
  | list [] => some true
  | list (d :: rest) => if form = .json ∧ !rest.isEmpty then none else asFlag d
  | _ => none

end Datum

namespace ConfigFile

def maxJobs : Nat := Nat.pow 2 64 - 1

def maxImageWidth : Nat := Nat.pow 2 32 - 1

/-- How the value of a field is taken into the settings. -/
abbrev Field := Datum → ConfigFile → Except ContentError ConfigFile

/-- A field that can only be badly written. -/
def field {α : Type} (read : Datum → Option α) (write : α → ConfigFile → ConfigFile) : Field :=
  fun d file => match read d with
    | some a => .ok (write a file)
    | none => .error .malformed

/-- The variables of a file; their names are looked at once all are read. -/
def varsField : Field := fun d file =>
  match d.asDict with
  | none => .error .malformed
  | some dict =>
    match Variables.ofDict dict with
    | .ok vars => .ok { file with vars }
    | .error names => .error (.invalidNames names)

/-- The fields by name, in the order in which a list gives their values. -/
def fields (form : ConfigNotation) : List (String × Field) :=
  [("input_dir", field (Datum.optional Datum.asText) fun v f => { f with inputDir := v }),
    ("output_dir", field (Datum.optional Datum.asText) fun v f => { f with outputDir := v }),
    ("jobs", field (Datum.optional (Datum.asNumber maxJobs)) fun v f => { f with jobs := v }),
    ("highlight_code",
      field (Datum.optional Datum.asFlag) fun v f => { f with highlightCode := v }),
    ("remove_common_indent",
      field (Datum.optional Datum.asFlag) fun v f => { f with removeCommonIndent := v }),
    ("image_max_width",
      field (Datum.optional (Datum.asNumber maxImageWidth)) fun v f =>
        { f with imageMaxWidth := v }),
    ("languages", field Datum.asDict fun v f => { f with languages := v }),
    ("variables", varsField),
    ("search", field (Datum.optional (Datum.asSearch form)) fun v f => { f with search := v })]

/-- Take the entries of a table in turn.  What stands at unknown names does not matter as long as it
can be held; a known name stands once. -/
def takeEntries (form : ConfigNotation) (complete : Bool) :
    List String → List (String × Datum) → ConfigFile → Except ContentError ConfigFile
  | _, [], file => if complete then .ok file else .error .malformed
  | seen, (key, d) :: rest, file =>
    match (fields form).lookup key with
    | none => if d.isHeld then takeEntries form complete seen rest file else .error .malformed
    | some take =>
      if key ∈ seen then .error .malformed
      else
        match take d file with
        | .error e => .error e
        | .ok file => takeEntries form complete (key :: seen) rest file

/-- Take the values of a list, one for each field; the last ones may be left out. -/
def takeValues (complete : Bool) :
    List Field → List Datum → ConfigFile → Except ContentError ConfigFile
  | _, [], file => if complete then .ok file else .error .malformed
  | [], _ :: _, _ => .error .malformed
  | take :: fields, d :: rest, file =>
    match take d file with
    | .error e => .error e
    | .ok file => takeValues complete fields rest file

/-- The settings of a layout. -/
def ofLayout (form : ConfigNotation) : Layout → Except ContentError ConfigFile
  | .table entries complete => takeEntries form complete [] entries {}
  | .list values complete => takeValues complete ((fields form).map Prod.snd) values {}
  | .unreadable => .error .malformed

def parse (form : ConfigNotation) (content : String) : Except ContentError ConfigFile :=
  match form with
  | .json => ofLayout .json (JsonText.read content)
  | .toml => ofLayout .toml (Toml.read content)

end ConfigFile

end Folio
