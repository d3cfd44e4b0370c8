namespace Folio
namespace Decimal

/-!
# Shortest decimal numbers

A double-precision number is written with the fewest digits that read back as the same number, and
among those as the nearest to it.  The number is taken apart into a whole number times a power of
two; the decimal grids with one, two, and up to seventeen digits are then tried in exact arithmetic,
and the first that has a point in the interval of numbers that round to it wins.  The text has no
exponent and no point after a whole number.
-/

/-- A positive number that fits into a double, with what reads back as it: `low`, `mid` and `high`
over `den` are the lower end, the number, and the upper end of the interval. -/
structure Interval where
  low : Nat
  mid : Nat
  high : Nat
  den : Nat
  /-- Whether the ends read back as the number too. -/
  closed : Bool

/-- The interval around `m * 2 ^ q`.  Below a power of two the neighbouring number is only half as
far away; `least` says that there is no such neighbour. -/
def interval (m : Nat) (q : Int) (least : Bool) : Interval :=
  let scale := Nat.pow 2 (q - 2).toNat
  let den := Nat.pow 2 (2 - q).toNat
  let below := if m == Nat.pow 2 52 && !least then 1 else 2
  ⟨(4 * m - below) * scale, 4 * m * scale, (4 * m + 2) * scale, den, m % 2 == 0⟩

namespace Interval

/-- Compare `a / den` with `d * 10 ^ e`: both sides over a common denominator. -/
def scaled (i : Interval) (a : Nat) (d : Nat) (e : Int) : Nat × Nat :=
  (a * Nat.pow 10 (-e).toNat, d * Nat.pow 10 e.toNat * i.den)

/-- Whether `d * 10 ^ e` reads back as the number. -/
def holds (i : Interval) (d : Nat) (e : Int) : Bool :=
  let (low, x) := i.scaled i.low d e
  let (high, y) := i.scaled i.high d e
  if i.closed then low ≤ x && y ≤ high else low < x && y < high

/-- The largest multiple of `10 ^ e` that is not above the number. -/
def floor (i : Interval) (e : Int) : Nat :=
  (i.mid * Nat.pow 10 (-e).toNat) / (i.den * Nat.pow 10 e.toNat)

/-- Whether the number is below `10 ^ k`. -/
def below (i : Interval) (k : Int) : Bool :=
  let (x, bound) := i.scaled i.mid 1 k
  x < bound

/-- The number of digits in front of the point; for a number below one, minus the zeros after it. -/
def magnitude (i : Interval) : Int :=
  let whole := i.mid / i.den
  if whole = 0 then
    let zeros : Int := (toString (i.den / i.mid)).length
    if i.below (-zeros) then -zeros
    else if i.below (1 - zeros) then 1 - zeros
    else 2 - zeros
  else (toString whole).length

/-- The point of the grid with `n` digits that reads back as the number and is nearest to it; of two
that are equally near, the larger. -/
def onGrid? (i : Interval) (n : Nat) : Option (Nat × Int) :=
  let e := i.magnitude - n
  let d := i.floor e
  match i.holds d e, i.holds (d + 1) e with
  | false, false => none
  | true, false => some (d, e)
  | false, true => some (d + 1, e)
  | true, true =>
    let (x, y) := i.scaled (2 * i.mid) (2 * d + 1) e
    let nearest : Nat := if x < y then d else d + 1
    some (nearest, e)

/-- The shortest digits that read back as the number, and the power of ten they are multiples
of. -/
def shortest (i : Interval) : Nat × Int :=
  let longest := (i.floor (i.magnitude - 17), i.magnitude - 17)
  ((List.range 17).findSome? fun n => i.onGrid? (n + 1)).getD longest

end Interval

/-- A multiple of a power of ten, without an exponent. -/
def positional (d : Nat) (e : Int) : String :=
  let digits := (toString d).toList
  if 0 ≤ e then String.ofList (digits ++ List.replicate e.toNat '0')
  else
    let places := (-e).toNat
    let padded := List.replicate (places + 1 - digits.length) '0' ++ digits
    let front := padded.length - places
    let fraction := ((padded.drop front).reverse.dropWhile (· == '0')).reverse
    String.ofList (padded.take front ++ if fraction.isEmpty then [] else '.' :: fraction)

/-- A double-precision number as text. -/
def text (x : Float) : String :=
  let bits := x.toBits.toNat
  let sign := if Nat.pow 2 63 ≤ bits then "-" else ""
  let exponent : Nat := bits / Nat.pow 2 52 % Nat.pow 2 11
  let fraction : Nat := bits % Nat.pow 2 52
  if exponent = 2047 then (if fraction = 0 then sign ++ "inf" else "NaN")
  else if exponent = 0 ∧ fraction = 0 then sign ++ "0"
  else
    let i :=
      if exponent = 0 then interval fraction (-1074) true
      else interval (Nat.pow 2 52 + fraction) ((exponent : Int) - 1075) (exponent == 1)
    let (d, e) := i.shortest
    sign ++ positional d e

end Decimal
end Folio
