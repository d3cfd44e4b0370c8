import Folio.Markup.NamedCharacter

namespace Folio
namespace Markup

/-!
# Character references

A character may be written as an ampersand, a name or a number, and a semicolon.  Two readers need
this.  Text taken out of finished markup is decoded strictly: every reference needs its semicolon,
and whatever is not a reference stays as it is.  A page is decoded as browsers do: numbers and a few
old names may lack the semicolon, and numbers without a character of their own are repaired.
-/

def hexValue? (c : Char) : Option Nat :=
  if '0' ≤ c ∧ c ≤ '9' then some (c.toNat - '0'.toNat)
  else if 'a' ≤ c ∧ c ≤ 'f' then some (c.toNat - 'a'.toNat + 10)
  else if 'A' ≤ c ∧ c ≤ 'F' then some (c.toNat - 'A'.toNat + 10)
  else none

def isHexDigit (c : Char) : Bool := (hexValue? c).isSome

/-- The number that digits in `base` write. -/
def numberOfDigits (base : Nat) (digits : List Char) : Nat :=
  digits.foldl (fun n c => base * n + (hexValue? c).getD 0) 0

/-- A number after a number sign: its value, and how many characters write it. -/
def number? : List Char → Option (Nat × Nat)
  | c :: cs =>
    if c = 'x' ∨ c = 'X' then
      let digits := cs.takeWhile isHexDigit
      if digits.isEmpty then none else some (numberOfDigits 16 digits, digits.length + 1)
    else
      let digits := (c :: cs).takeWhile Char.isDigit
      if digits.isEmpty then none else some (numberOfDigits 10 digits, digits.length)
  | [] => none

/-- The character with a code point, if there is one. -/
def charOfCode? (n : Nat) : Option Char := if n.isValidChar then some (Char.ofNat n) else none

/-- Whether a number may stand for a character in stripped text: control characters other than
white space may not. -/
def isPlainCode (n : Nat) : Bool := n ≥ 0x20 || n == 9 || n == 10 || n == 12 || n == 13

/-- The reference after an ampersand, with the number of characters it takes. -/
def strictReference? (cs : List Char) : Option (List Char × Nat) :=
  match cs with
  | '#' :: digits =>
    match number? digits with
    | some (n, len) =>
      if digits[len]? = some ';' ∧ isPlainCode n then
        (charOfCode? n).map fun c => ([c], len + 2)
      else none
    | none => none
  | _ =>
    let name := cs.takeWhile Char.isAlphanum
    if cs[name.length]? = some ';' then
      (namedCharacter? (String.ofList name)).map fun s => (s, name.length + 1)
    else none

/-- Decode from left to right; what a reference stands for is not read again.  The first `skip`
characters belong to the reference decoded last. -/
def decodeStrictFrom : Nat → List Char → List Char
  | _, [] => []
  | skip + 1, _ :: cs => decodeStrictFrom skip cs
  | 0, c :: cs =>
    if c = '&' then
      match strictReference? cs with
      | some (s, len) => s ++ decodeStrictFrom len cs
      | none => c :: decodeStrictFrom 0 cs
    else c :: decodeStrictFrom 0 cs

def decodeStrict (cs : List Char) : List Char := decodeStrictFrom 0 cs

/-! ## Decoding in a page -/

/-- What pages mean by the numbers from 0x80 to 0x9F, where an old code page had letters. -/
def oldCodePage : List (Nat × Nat) := [
  (0x80, 0x20AC), (0x82, 0x201A), (0x83, 0x0192), (0x84, 0x201E), (0x85, 0x2026), (0x86, 0x2020),
  (0x87, 0x2021), (0x88, 0x02C6), (0x89, 0x2030), (0x8A, 0x0160), (0x8B, 0x2039), (0x8C, 0x0152),
  (0x8E, 0x017D), (0x91, 0x2018), (0x92, 0x2019), (0x93, 0x201C), (0x94, 0x201D), (0x95, 0x2022),
  (0x96, 0x2013), (0x97, 0x2014), (0x98, 0x02DC), (0x99, 0x2122), (0x9A, 0x0161), (0x9B, 0x203A),
  (0x9C, 0x0153), (0x9E, 0x017E), (0x9F, 0x0178)]

/-- The character that stands for one that cannot be shown. -/
def replacementChar : Char := '\ufffd'

/-- The character that a number means in a page; every number means one. -/
def repairedChar (n : Nat) : Char :=
  if n = 0 then replacementChar
  else match oldCodePage.lookup n with
    | some m => Char.ofNat m
    | none => (charOfCode? n).getD replacementChar

/-- The longest name without a semicolon at the front of a run of letters and digits.  Such names
have two to six letters. -/
def bareName? (run : List Char) : Option (List Char) :=
  ([6, 5, 4, 3, 2].map run.take).find? fun s => bareNames.contains (String.ofList s)

/-- The reference after an ampersand in a page, with the number of characters it takes.  In the
value of an attribute a name without a semicolon does not count when a letter, a digit or an equals
sign follows, so that addresses with parameters survive. -/
def pageReference? (inAttribute : Bool) (cs : List Char) : Option (List Char × Nat) :=
  match cs with
  | '#' :: digits =>
    match number? digits with
    | some (n, len) =>
      some ([repairedChar n], len + 1 + if digits[len]? = some ';' then 1 else 0)
    | none => none
  | _ =>
    let run := cs.takeWhile Char.isAlphanum
    let closed :=
      if cs[run.length]? = some ';' then namedCharacter? (String.ofList run) else none
    match closed with
    | some s => some (s, run.length + 1)
    | none =>
      match bareName? run with
      | none => none
      | some name =>
        let continued := match cs[name.length]? with
          | some c => c == '=' || c.isAlphanum
          | none => false
        if inAttribute && continued then none
        else (namedCharacter? (String.ofList name)).map fun s => (s, name.length)

/-- Decode from left to right, as `decodeStrictFrom` does. -/
def decodePageFrom (inAttribute : Bool) : Nat → List Char → List Char
  | _, [] => []
  | skip + 1, _ :: cs => decodePageFrom inAttribute skip cs
  | 0, c :: cs =>
    if c = '&' then
      match pageReference? inAttribute cs with
      | some (s, len) => s ++ decodePageFrom inAttribute len cs
      | none => c :: decodePageFrom inAttribute 0 cs
    else c :: decodePageFrom inAttribute 0 cs

def decodeText (cs : List Char) : List Char := decodePageFrom false 0 cs

def decodeValue (cs : List Char) : List Char := decodePageFrom true 0 cs

end Markup
end Folio
