import OscRemote.Number.Binary

/-!
# The shortest text of a number

A number is written with the fewest decimal digits that read back as it, of those with the fewest
the nearest, and of two equally near the greater.  The digits always stand in their places: there is
no exponent, and no point after a whole number.
-/

namespace OscRemote.Number

-- Powers are those that numbers come with, whatever else is in scope.
attribute [local instance (2000)] instPowNat

/-- The reals that round to one magnitude, as multiples of `unit`, a power of two: those between
`low` and `high`, and the two ends if `closed`. -/
structure Interval where
  low : Nat
  value : Nat
  high : Nat
  scale : Int
  closed : Bool

/-- The reals that round to the magnitude with this pattern.  Below a power of two the next
magnitude is nearer by half. -/
def Format.interval (f : Format) (pattern : Nat) : Interval :=
  let m := f.significand pattern
  let atPower := decide (m = 2 ^ f.fractionBits) && decide (2 * 2 ^ f.fractionBits ≤ pattern)
  { low := 4 * m - (if atPower then 1 else 2)
    value := 4 * m
    high := 4 * m + 2
    scale := f.scale pattern - 2
    closed := m % 2 == 0 }

namespace Interval

variable (i : Interval)

/-- How `n * 10 ^ ten` compares with `k` units of the interval. -/
def compareGrid (n : Nat) (ten : Int) (k : Nat) : Ordering :=
  compare (n * 10 ^ ten.toNat * 2 ^ (-i.scale).toNat) (k * 2 ^ i.scale.toNat * 10 ^ (-ten).toNat)

/-- Whether `n * 10 ^ ten` lies in the interval. -/
def contains (n : Nat) (ten : Int) : Bool :=
  match i.compareGrid n ten i.low, i.compareGrid n ten i.high with
  | .gt, .lt => true
  | .eq, _ => i.closed
  | _, .eq => i.closed
  | _, _ => false

/-- The multiple of `10 ^ ten` at or next below the value. -/
def floorGrid (ten : Int) : Nat :=
  i.value * 2 ^ i.scale.toNat * 10 ^ (-ten).toNat / (2 ^ (-i.scale).toNat * 10 ^ ten.toNat)

/-- The best multiple of `10 ^ ten` in the interval, if there is one. -/
def onGrid? (ten : Int) : Option Nat :=
  let below := i.floorGrid ten
  match i.contains below ten, i.contains (below + 1) ten with
  | true, true =>
    -- twice the value against the sum of the two neighbours
    some (if i.compareGrid (2 * below + 1) ten (2 * i.value) == .gt then below else below + 1)
  | true, false => some below
  | false, true => some (below + 1)
  | false, false => none

/-- The best point of the coarsest grid with a point in the interval, from `10 ^ ten` down. -/
def shortestFrom : (fuel : Nat) → (ten : Int) → Nat × Int
  | 0, ten => (i.floorGrid ten, ten)
  | fuel + 1, ten =>
    match i.onGrid? ten with
    | some n => (n, ten)
    | none => shortestFrom fuel (ten - 1)

end Interval

/-- The digits of `n * 10 ^ ten` in their places, with a point if some stand behind it. -/
def positional (n : Nat) (ten : Int) : List Char :=
  let digits := Nat.toDigits 10 n
  if 0 ≤ ten then digits ++ List.replicate ten.toNat '0'
  else
    let places := (-ten).toNat
    let digits := List.replicate (places + 1 - digits.length) '0' ++ digits
    let (whole, fraction) := digits.splitAt (digits.length - places)
    whole ++ '.' :: fraction

/-- The shortest text of the magnitude with this pattern, above zero and finite. -/
def Format.shortest (f : Format) (pattern : Nat) : List Char :=
  let (n, ten) := (f.interval pattern).shortestFrom (2 * f.tenLimit) (f.tenLimit / 2)
  positional n ten

/-- The text of a number of 32 bits. -/
def Single.toText (x : Single) : String :=
  if x.isNan then "NaN"
  else
    let sign := if x.isNegative then ['-'] else []
    let pattern := x.magnitude.toNat
    String.ofList (sign ++
      (if pattern = 0 then ['0']
        else if pattern = Format.single.infinity then "inf".toList
        else Format.single.shortest pattern))

end OscRemote.Number
