namespace Folio

/-!
# What settings files hold

Settings files are written in one of two notations.  Either is read into the same values; what no
setting takes, such as a fraction, is kept apart only in so far as it was well written.
-/

/-- A value in a settings file. -/
inductive Datum where
  | null
  | flag (value : Bool)
  | number (value : Int)
  | text (value : String)
  | list (values : List Datum)
  | table (entries : List (String × Datum))
  /-- A value of a kind that no setting has. -/
  | other
  /-- A number that cannot be held: it does no harm as long as nobody looks at it. -/
  | overflow
  deriving Inhabited

/-- What was read of a settings file, up to its end or to its first mistake. -/
inductive Layout where
  /-- Entries in order, and whether the file ends well behind them. -/
  | table (entries : List (String × Datum)) (complete : Bool)
  | list (values : List Datum) (complete : Bool)
  | unreadable
  deriving Inhabited

namespace Datum

mutual

/-- Whether all numbers in a value can be held. -/
def isHeld : Datum → Bool
  | .overflow => false
  | .list values => areHeld values
  | .table entries => entriesHeld entries
  | _ => true

def areHeld : List Datum → Bool
  | [] => true
  | d :: ds => d.isHeld && areHeld ds

def entriesHeld : List (String × Datum) → Bool
  | [] => true
  | (_, d) :: es => d.isHeld && entriesHeld es

end

end Datum

/-- A step that reads something from the front of a text, and leaves the rest. -/
abbrev Reader (α : Type) := List Char → Option (α × List Char)

def hexValue? (c : Char) : Option Nat :=
  if c.isDigit then some (c.toNat - '0'.toNat)
  else if 'a' ≤ c && c ≤ 'f' then some (c.toNat - 'a'.toNat + 10)
  else if 'A' ≤ c && c ≤ 'F' then some (c.toNat - 'A'.toNat + 10)
  else none

def hexNumber? (digits : List Char) : Option Nat :=
  (digits.mapM hexValue?).map fun ds => ds.foldl (fun n d => n * 16 + d) 0

def decimalNumber (digits : List Char) : Nat :=
  digits.foldl (fun n c => n * 10 + (c.toNat - '0'.toNat)) 0

end Folio
