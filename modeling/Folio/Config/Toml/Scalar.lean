import Folio.Config.Datum

namespace Folio
namespace Toml

/-!
# TOML: keys, strings, numbers and dates

The parts of a TOML text that hold no other parts.  Numbers and dates are read from an unbroken run
of characters, which must be of one of the forms that the language has.  A number too large to be
held is well written all the same, and a date is seen as a table that holds its text.
-/

def isBlank (c : Char) : Bool := c == ' ' || c == '\t'

def skipBlanks (cs : List Char) : List Char := cs.dropWhile isBlank

/-- Control characters, which stand in no comment and no string. -/
def isControl (c : Char) : Bool := (c.toNat < 0x20 && c != '\t') || c.toNat == 0x7F

def charOf? (n : Nat) : Option Char := if n.isValidChar then some (Char.ofNat n) else none

/-- What a letter stands for behind a backslash. -/
def escaped? (c : Char) : Option Char :=
  match c with
  | '"' => some '"'
  | '\\' => some '\\'
  | 'b' => some '\x08'
  | 'e' => some '\x1b'
  | 'f' => some '\x0c'
  | 'n' => some '\n'
  | 'r' => some '\r'
  | 't' => some '\t'
  | _ => none

/-- The number of hexadecimal digits that a letter announces behind a backslash. -/
def escapeWidth (c : Char) : Nat :=
  if c = 'x' then 2 else if c = 'u' then 4 else if c = 'U' then 8 else 0

/-- What an escape stands for, and how many characters it takes behind the backslash. -/
def escape? : List Char → Option (Char × Nat)
  | [] => none
  | c :: cs =>
    let width := escapeWidth c
    if width = 0 then (escaped? c).map (·, 1)
    else if cs.length < width then none
    else ((hexNumber? (cs.take width)).bind charOf?).map (·, width + 1)

/-- A string in double quotes, whose opening quote has been read; `skip` characters of an escape
are still to be passed over. -/
def basicBody : Nat → Reader (List Char)
  | _, [] => none
  | skip + 1, _ :: cs => basicBody skip cs
  | 0, c :: cs =>
    if c = '"' then some ([], cs)
    else if c = '\\' then do
      let (e, count) ← escape? cs
      let (text, rest) ← basicBody count cs
      return (e :: text, rest)
    else if isControl c then none
    else (basicBody 0 cs).map fun r => (c :: r.1, r.2)

/-- A string in single quotes, whose opening quote has been read. -/
def literalBody : Reader (List Char)
  | [] => none
  | c :: cs =>
    if c = '\'' then some ([], cs)
    else if isControl c then none
    else (literalBody cs).map fun r => (c :: r.1, r.2)

/-- The line break at the front of a text. -/
def lineBreak? : List Char → Option (List Char)
  | '\n' :: cs => some cs
  | '\r' :: '\n' :: cs => some cs
  | _ => none

/-- Up to two quotes that stand in front of three closing ones. -/
def extraQuotes (quote : Char) (cs : List Char) : Nat :=
  min 2 (cs.takeWhile (· == quote)).length

/-- Whether a backslash ends a line: only blanks stand between it and a line break. -/
def endsLine (cs : List Char) : Bool := (lineBreak? (skipBlanks cs)).isSome

/-- A string in three double quotes.  With `trimming`, blanks and line breaks are passed over. -/
def multiBasicBody : Bool → Nat → Reader (List Char)
  | _, _, [] => none
  | trimming, skip + 1, _ :: cs => multiBasicBody trimming skip cs
  | trimming, 0, c :: cs =>
    if c = '"' ∧ ['"', '"'].isPrefixOf cs then
      let extra := extraQuotes '"' (cs.drop 2)
      some (List.replicate extra '"', cs.drop (2 + extra))
    else if trimming && (isBlank c || c == '\n') then multiBasicBody true 0 cs
    else if c = '\r' then
      if cs.head? = some '\n' then
        (multiBasicBody trimming 0 cs).map fun r =>
          (if trimming then r.1 else c :: r.1, r.2)
      else none
    else if c = '\\' then
      if endsLine cs then multiBasicBody true 0 cs
      else do
        let (e, count) ← escape? cs
        let (text, rest) ← multiBasicBody false count cs
        return (e :: text, rest)
    else if isControl c && c != '\n' then none
    else (multiBasicBody false 0 cs).map fun r => (c :: r.1, r.2)

/-- A string in three single quotes. -/
def multiLiteralBody : Reader (List Char)
  | [] => none
  | c :: cs =>
    if c = '\'' ∧ ['\'', '\''].isPrefixOf cs then
      let extra := extraQuotes '\'' (cs.drop 2)
      some (List.replicate extra '\'', cs.drop (2 + extra))
    else if c = '\r' ∧ cs.head? ≠ some '\n' then none
    else if isControl c && c != '\n' && c != '\r' then none
    else (multiLiteralBody cs).map fun r => (c :: r.1, r.2)

/-- What follows three quotes, without a line break right behind them. -/
def afterOpening (cs : List Char) : List Char := (lineBreak? cs).getD cs

def lineString : Reader String
  | '"' :: cs => (basicBody 0 cs).map fun r => (String.ofList r.1, r.2)
  | '\'' :: cs => (literalBody cs).map fun r => (String.ofList r.1, r.2)
  | _ => none

def string : Reader String
  | '"' :: '"' :: '"' :: cs =>
    (multiBasicBody false 0 (afterOpening cs)).map fun r => (String.ofList r.1, r.2)
  | '\'' :: '\'' :: '\'' :: cs =>
    (multiLiteralBody (afterOpening cs)).map fun r => (String.ofList r.1, r.2)
  | cs => lineString cs

/-- How deep values may be nested, and how many parts a key may have. -/
def maxDepth : Nat := 80

def isKeyChar (c : Char) : Bool := c.isAlphanum || c == '_' || c == '-'

def keyPart : Reader String := fun cs =>
  match cs with
  | '"' :: _ => lineString cs
  | '\'' :: _ => lineString cs
  | _ =>
    let name := cs.takeWhile isKeyChar
    if name.isEmpty then none else some (String.ofList name, cs.dropWhile isKeyChar)

/-- A key: parts with dots between them, of which there are at most `fuel`. -/
def key : Nat → Reader (List String)
  | 0, _ => none
  | fuel + 1, cs => do
    let (part, cs) ← keyPart (skipBlanks cs)
    match skipBlanks cs with
    | '.' :: cs =>
      let (parts, cs) ← key fuel cs
      return (part :: parts, cs)
    | cs => return ([part], cs)

/-! ## Numbers, dates and times -/

/-- Digits with single low lines between them, the low lines left out. -/
def groupedDigits? (isDigit : Char → Bool) : List Char → Option (List Char)
  | [] => none
  | [c] => if isDigit c then some [c] else none
  | c :: '_' :: cs => if isDigit c then (c :: ·) <$> groupedDigits? isDigit cs else none
  | c :: d :: cs => if isDigit c then (c :: ·) <$> groupedDigits? isDigit (d :: cs) else none

/-- The digits of a decimal number, without zeros in front. -/
def decimalDigits? (cs : List Char) : Option (List Char) :=
  match groupedDigits? Char.isDigit cs with
  | some ('0' :: _ :: _) => none
  | ds => ds

/-- A sign in front of a number: whether it is a minus, and the rest. -/
def splitSign : List Char → Bool × List Char
  | '-' :: cs => (true, cs)
  | '+' :: cs => (false, cs)
  | cs => (false, cs)

/-- The number that digits spell in some base. -/
def numberIn (base : Nat) (digits : List Char) : Nat :=
  digits.foldl (fun n c => n * base + (hexValue? c).getD 0) 0

/-- Whole numbers have up to 128 bits. -/
def inRange (n : Int) : Bool :=
  -Int.ofNat (Nat.pow 2 127) ≤ n && n < Int.ofNat (Nat.pow 2 128)

def heldWhole (n : Int) : Datum := if inRange n then .number n else .overflow

/-- A whole number in one of four bases.  The digits behind the mark of a base may be left out, but
there is no such number. -/
def whole? (cs : List Char) : Option Datum :=
  let inBase (base : Nat) (cs : List Char) : Option Datum :=
    if cs.isEmpty then some .overflow
    else
      (groupedDigits? (fun c => (hexValue? c).any (· < base)) cs).map fun ds =>
        heldWhole (numberIn base ds)
  match cs with
  | '0' :: 'x' :: cs => inBase 16 cs
  | '0' :: 'o' :: cs => inBase 8 cs
  | '0' :: 'b' :: cs => inBase 2 cs
  | cs =>
    let (negative, cs) := splitSign cs
    (decimalDigits? cs).map fun ds =>
      heldWhole (if negative then -(decimalNumber ds : Int) else decimalNumber ds)

/-- A number with a fraction or an exponent, but for its sign. -/
structure Fraction where
  digits : List Char
  /-- How many of the digits stand behind the point. -/
  places : Nat
  exponent : Int

/-- Where numbers of 64 bits end: what lies here or above is no nearer to the largest of them than
to the power of two behind it. -/
def fractionBound : Nat := Nat.pow 2 1024 - Nat.pow 2 970

/-- Whether a number is too large for 64 bits. -/
def Fraction.overflows (f : Fraction) : Bool :=
  let n := decimalNumber f.digits
  let shift := f.exponent - f.places
  if n = 0 then false
  else if 0 ≤ shift then shift > 308 || n * Nat.pow 10 shift.toNat ≥ fractionBound
  else (-shift).toNat < f.digits.length && n ≥ fractionBound * Nat.pow 10 (-shift).toNat

def isExponentMark (c : Char) : Bool := c == 'e' || c == 'E'

/-- A number with a fraction, an exponent or both; the sign has been dropped. -/
def fraction? (cs : List Char) : Option Fraction := do
  let mantissa := cs.takeWhile (!isExponentMark ·)
  let front := mantissa.takeWhile (· != '.')
  let whole ← decimalDigits? front
  let places ←
    if mantissa.length = front.length then some []
    else groupedDigits? Char.isDigit (mantissa.drop (front.length + 1))
  let exponent ←
    if cs.length = mantissa.length then some 0
    else
      let (negative, digits) := splitSign (cs.drop (mantissa.length + 1))
      (groupedDigits? Char.isDigit digits).map fun ds =>
        if negative then -(decimalNumber ds : Int) else decimalNumber ds
  return ⟨whole ++ places, places.length, exponent⟩

/-- A number with a fraction or an exponent, or one of the special numbers. -/
def fractional? (cs : List Char) : Option Datum :=
  let cs := (splitSign cs).2
  if cs = "inf".toList ∨ cs = "nan".toList then some .other
  else (fraction? cs).map fun f => if f.overflows then .overflow else .other

/-- The number that `width` digits at the front of a text spell, if it lies between two bounds. -/
def bounded (width low high : Nat) : Reader Nat := fun cs =>
  let ds := cs.take width
  if ds.length = width ∧ ds.all Char.isDigit then
    let n := decimalNumber ds
    if low ≤ n ∧ n ≤ high then some (n, cs.drop width) else none
  else none

def expect? (c : Char) : List Char → Option (List Char)
  | d :: cs => if c = d then some cs else none
  | [] => none

def isLeapYear (y : Nat) : Bool := y % 4 == 0 && (y % 100 != 0 || y % 400 == 0)

def daysIn (year month : Nat) : Nat :=
  if month = 2 then (if isLeapYear year then 29 else 28)
  else if month = 4 ∨ month = 6 ∨ month = 9 ∨ month = 11 then 30 else 31

/-- What follows a date at the front of a text. -/
def date? (cs : List Char) : Option (List Char) := do
  let (year, cs) ← bounded 4 0 9999 cs
  let (month, cs) ← bounded 2 1 12 (← expect? '-' cs)
  let (_, cs) ← bounded 2 1 (daysIn year month) (← expect? '-' cs)
  return cs

/-- The digits of a part of a second: nine at most, and no zeros at the end but a single one. -/
def secondPart (digits : List Char) : List Char :=
  match ((digits.take 9).reverse.dropWhile (· == '0')).reverse with
  | [] => ['0']
  | ds => ds

/-- Seconds, which may be left out, at the front of a text. -/
def seconds : Reader (List Char) := fun cs =>
  match cs with
  | ':' :: cs => do
    let (_, rest) ← bounded 2 0 60 cs
    let whole := ':' :: cs.take 2
    match rest with
    | '.' :: rest =>
      let digits := rest.takeWhile Char.isDigit
      if digits.isEmpty then none
      else return (whole ++ '.' :: secondPart digits, rest.drop digits.length)
    | rest => return (whole, rest)
  | cs => some ([], cs)

def time : Reader (List Char) := fun cs => do
  let (_, rest) ← bounded 2 0 23 cs
  let (_, rest) ← bounded 2 0 59 (← expect? ':' rest)
  let (tail, rest) ← seconds rest
  return (cs.take 5 ++ tail, rest)

/-- A distance from universal time, or nothing.  No distance counts as one to the east. -/
def offset? : List Char → Option (List Char)
  | [] => some []
  | c :: cs =>
    if c = '+' ∨ c = '-' then do
      let (hours, rest) ← bounded 2 0 23 cs
      let (minutes, rest) ← bounded 2 0 59 (← expect? ':' rest)
      if rest.isEmpty then return (if hours = 0 ∧ minutes = 0 then '+' else c) :: cs else none
    else if (c = 'Z' ∨ c = 'z') ∧ cs.isEmpty then some ['Z']
    else none

/-- A date, a time, or both, in the form in which they are shown. -/
def moment? (cs : List Char) : Option (List Char) :=
  match date? cs with
  | some [] => some cs
  | some (c :: rest) =>
    if c = 'T' ∨ c = 't' ∨ c = ' ' then do
      let (time, rest) ← time rest
      let offset ← offset? rest
      return cs.take 10 ++ 'T' :: time ++ offset
    else none
  | none =>
    match time cs with
    | some (text, []) => some text
    | _ => none

/-- The key under which a date holds its text. -/
def momentKey : String := "$__toml_private_datetime"

/-! ## Runs -/

def endsRun (c : Char) : Bool :=
  isBlank c || c == '\n' || c == '\r' || c == ',' || c == ']' || c == '\x7d' || c == '#'

def scalar? (run : List Char) : Option Datum :=
  if run = "true".toList then some (.flag true)
  else if run = "false".toList then some (.flag false)
  else
    ((whole? run).or (fractional? run)).or
      ((moment? run).map fun text => .table [(momentKey, .text (String.ofList text))])

/-- A run; a date may be followed by a blank and a time. -/
def run : Reader (List Char) := fun cs =>
  let first := cs.takeWhile (!endsRun ·)
  match cs.dropWhile (!endsRun ·) with
  | ' ' :: c :: rest =>
    if date? first = some [] ∧ c.isDigit then
      some (first ++ ' ' :: (c :: rest).takeWhile (!endsRun ·),
        (c :: rest).dropWhile (!endsRun ·))
    else some (first, ' ' :: c :: rest)
  | rest => some (first, rest)

/-- A value that holds no others. -/
def scalar : Reader Datum := fun cs =>
  match cs with
  | '"' :: _ => (string cs).map fun r => (.text r.1, r.2)
  | '\'' :: _ => (string cs).map fun r => (.text r.1, r.2)
  | _ => do
    let (first, rest) ← run cs
    let v ← scalar? first
    return (v, rest)

end Toml
end Folio
