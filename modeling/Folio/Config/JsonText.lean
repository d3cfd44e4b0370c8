import Folio.Config.Datum

namespace Folio
namespace JsonText

/-!
# Reading JSON

A reader of JSON texts for settings.  The entries of the outermost object are read one by one, so
that a mistake in one of them is found before a mistake that stands behind it.
-/

def isBlank (c : Char) : Bool := c == ' ' || c == '\n' || c == '\r' || c == '\t'

def skipBlanks (cs : List Char) : List Char := cs.dropWhile isBlank

/-- What a letter stands for behind a backslash. -/
def escaped? (c : Char) : Option Char :=
  match c with
  | '"' => some '"'
  | '\\' => some '\\'
  | '/' => some '/'
  | 'b' => some '\x08'
  | 'f' => some '\x0c'
  | 'n' => some '\n'
  | 'r' => some '\r'
  | 't' => some '\t'
  | _ => none

/-- The code units of a string, whose opening quote has been read. -/
def units : Reader (List Nat)
  | '"' :: cs => some ([], cs)
  | '\\' :: 'u' :: a :: b :: c :: d :: cs => do
    let n ← hexNumber? [a, b, c, d]
    let (ns, rest) ← units cs
    return (n :: ns, rest)
  | '\\' :: c :: cs => do
    let e ← escaped? c
    let (ns, rest) ← units cs
    return (e.toNat :: ns, rest)
  | c :: cs => do
    if c.toNat < 0x20 then none
    else
      let (ns, rest) ← units cs
      return (c.toNat :: ns, rest)
  | [] => none

def isHighHalf (n : Nat) : Bool := 0xD800 ≤ n && n < 0xDC00

def isLowHalf (n : Nat) : Bool := 0xDC00 ≤ n && n < 0xE000

/-- The characters of code units; a half of a pair that stands alone is no character. -/
def joinUnits? : List Nat → Option (List Char)
  | [] => some []
  | [n] => if isHighHalf n || isLowHalf n then none else some [Char.ofNat n]
  | n :: m :: ns =>
    if isHighHalf n then
      if isLowHalf m then
        (Char.ofNat (0x10000 + (n - 0xD800) * 0x400 + (m - 0xDC00)) :: ·) <$> joinUnits? ns
      else none
    else if isLowHalf n then none
    else (Char.ofNat n :: ·) <$> joinUnits? (m :: ns)

/-- A string, if its units are characters. -/
def string : Reader (Option String)
  | '"' :: cs => do
    let (ns, rest) ← units cs
    return ((joinUnits? ns).map String.ofList, rest)
  | _ => none

def digits1 : Reader (List Char) := fun cs =>
  match cs.takeWhile Char.isDigit with
  | [] => none
  | ds => some (ds, cs.dropWhile Char.isDigit)

/-- The digits of a whole number, without zeros in front. -/
def wholeDigits : Reader (List Char)
  | '0' :: cs => some (['0'], cs)
  | cs => digits1 cs

/-- Skip a fraction, if there is one; the flag says whether. -/
def fraction : Reader Bool
  | '.' :: cs => (digits1 cs).map fun r => (true, r.2)
  | cs => some (false, cs)

/-- Skip an exponent, if there is one; the flag says whether. -/
def exponent : Reader Bool
  | c :: cs =>
    if c = 'e' ∨ c = 'E' then
      let digits := match cs with
        | '+' :: ds => ds
        | '-' :: ds => ds
        | ds => ds
      (digits1 digits).map fun r => (true, r.2)
    else some (false, c :: cs)
  | [] => some (false, [])

/-- The largest whole number that is kept as one. -/
def maxWhole : Nat := Nat.pow 2 64 - 1

/-- A number.  Only whole numbers up to a limit are told apart; minus zero is none. -/
def number : Reader Datum := fun cs => do
  let (negative, cs) := match cs with
    | '-' :: cs => (true, cs)
    | cs => (false, cs)
  let (ds, cs) ← wholeDigits cs
  let (fractional, cs) ← fraction cs
  let (scaled, cs) ← exponent cs
  let n := decimalNumber ds
  if fractional || scaled || n > maxWhole || (negative && n == 0) then return (.other, cs)
  else return (.number (if negative then -(n : Int) else n), cs)

/-! ## Values -/

/-- A word that stands for a value. -/
def word? (name : String) (value : Datum) : Reader Datum := fun cs =>
  if name.toList.isPrefixOf cs then some (value, cs.drop name.length) else none

/-- The entries of an object as a value; one with a key that is no text cannot be used. -/
def tableOf (entries : List (Option String × Datum)) : Datum :=
  match entries.mapM fun e => e.1.map fun key => (key, e.2) with
  | some entries => .table entries
  | none => .other

mutual

/-- A value, with blanks allowed in front; at most `fuel` of its parts are read. -/
def value : Nat → Reader Datum
  | 0, _ => none
  | fuel + 1, cs =>
    match skipBlanks cs with
    | '\x7b' :: cs =>
      match skipBlanks cs with
      | '\x7d' :: cs => some (.table [], cs)
      | cs => (members fuel cs).map fun r => (tableOf r.1, r.2)
    | '[' :: cs =>
      match skipBlanks cs with
      | ']' :: cs => some (.list [], cs)
      | cs => (elements fuel cs).map fun r => (.list r.1, r.2)
    | '"' :: cs =>
      (string ('"' :: cs)).map fun r => ((r.1.map Datum.text).getD .other, r.2)
    | 't' :: cs => word? "true" (.flag true) ('t' :: cs)
    | 'f' :: cs => word? "false" (.flag false) ('f' :: cs)
    | 'n' :: cs => word? "null" .null ('n' :: cs)
    | cs => number cs

/-- The elements of an array, up to and with the bracket that ends it. -/
def elements : Nat → Reader (List Datum)
  | 0, _ => none
  | fuel + 1, cs => do
    let (v, cs) ← value fuel cs
    match skipBlanks cs with
    | ',' :: cs =>
      let (vs, cs) ← elements fuel cs
      return (v :: vs, cs)
    | ']' :: cs => return ([v], cs)
    | _ => none

/-- The entry of an object. -/
def member : Nat → Reader (Option String × Datum)
  | 0, _ => none
  | fuel + 1, cs => do
    let (key, cs) ← string (skipBlanks cs)
    match skipBlanks cs with
    | ':' :: cs =>
      let (v, cs) ← value fuel cs
      return ((key, v), cs)
    | _ => none

/-- The entries of an object, up to and with the brace that ends it. -/
def members : Nat → Reader (List (Option String × Datum))
  | 0, _ => none
  | fuel + 1, cs => do
    let (e, cs) ← member fuel cs
    match skipBlanks cs with
    | ',' :: cs =>
      let (es, cs) ← members fuel cs
      return (e :: es, cs)
    | '\x7d' :: cs => return ([e], cs)
    | _ => none

end

def endsHere (cs : List Char) : Bool := (skipBlanks cs).isEmpty

/-- The entries of the outermost object, and whether the text ends well behind them. -/
def outerMembers : Nat → List Char → List (String × Datum) × Bool
  | 0, _ => ([], false)
  | fuel + 1, cs =>
    match member fuel cs with
    | some ((some key, v), cs) =>
      match skipBlanks cs with
      | ',' :: cs =>
        let r := outerMembers fuel cs
        ((key, v) :: r.1, r.2)
      | '\x7d' :: cs => ([(key, v)], endsHere cs)
      | _ => ([(key, v)], false)
    | _ => ([], false)

/-- The elements of the outermost array, and whether the text ends well behind them. -/
def outerElements : Nat → List Char → List Datum × Bool
  | 0, _ => ([], false)
  | fuel + 1, cs =>
    match value fuel cs with
    | some (v, cs) =>
      match skipBlanks cs with
      | ',' :: cs =>
        let r := outerElements fuel cs
        (v :: r.1, r.2)
      | ']' :: cs => ([v], endsHere cs)
      | _ => ([v], false)
    | none => ([], false)

/-- Read a settings file.  Every part of a text takes at least one of its characters, so there are
no more steps than twice as many as characters. -/
def read (text : String) : Layout :=
  let fuel := 2 * text.length + 2
  match skipBlanks text.toList with
  | '\x7b' :: cs =>
    match skipBlanks cs with
    | '\x7d' :: cs => .table [] (endsHere cs)
    | cs =>
      let r := outerMembers fuel cs
      .table r.1 r.2
  | '[' :: cs =>
    match skipBlanks cs with
    | ']' :: cs => .list [] (endsHere cs)
    | cs =>
      let r := outerElements fuel cs
      .list r.1 r.2
  | _ => .unreadable

end JsonText
end Folio
