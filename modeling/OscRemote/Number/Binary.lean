/-!
# Binary floating point

A number of a floating-point format is a bit pattern: a sign, a biased exponent and a fraction.
Patterns without their sign bit are naturals here, and they ascend with the magnitudes they stand
for.  `Format.round` finds the pattern of the magnitude nearest to a quotient of naturals, in exact
arithmetic; `Format.significand` and `Format.scale` take a pattern apart again.

`Single` and `Double` are the two formats of messages, held as their bits, so that two of them are
equal as values exactly if they are the same pattern.  Equality of numbers is `sameNumber`.
-/

namespace OscRemote.Number

-- Powers are those that numbers come with, whatever else is in scope.
attribute [local instance (2000)] instPowNat

/-- A binary format, by the widths of its two fields besides the sign. -/
structure Format where
  fractionBits : Nat
  exponentBits : Nat
deriving DecidableEq

namespace Format

/-- The format of 32 bits. -/
def single : Format := ⟨23, 8⟩

/-- The format of 64 bits. -/
def double : Format := ⟨52, 11⟩

variable (f : Format)

/-- The exponent of two of the smallest magnitude above zero. -/
def leastScale : Int :=
  2 - 2 ^ (f.exponentBits - 1) - f.fractionBits

/-- The pattern of the infinities less their sign; those above it are not numbers. -/
def infinity : Nat :=
  (2 ^ f.exponentBits - 1) * 2 ^ f.fractionBits

/-- The sign bit. -/
def signBit : Nat :=
  2 ^ (f.fractionBits + f.exponentBits)

/-- The exponent of two of the last place of the magnitude with this pattern. -/
def scale (pattern : Nat) : Int :=
  f.leastScale + ((pattern / 2 ^ f.fractionBits - 1 : Nat) : Int)

/-- The magnitude with this pattern, in units of its last place. -/
def significand (pattern : Nat) : Nat :=
  pattern - (pattern / 2 ^ f.fractionBits - 1) * 2 ^ f.fractionBits

/-- The natural nearest to a quotient; of two, the even one. -/
def roundQuotient (num den : Nat) : Nat :=
  let q := num / den
  let twice := 2 * (num % den)
  if twice < den ∨ (twice = den ∧ q % 2 = 0) then q else q + 1

/-- The exponent of the greatest power of two that is at most a quotient of positive naturals. -/
def floorLog2 (num den : Nat) : Int :=
  let e : Int := num.log2 - den.log2
  if num * 2 ^ (-e).toNat < den * 2 ^ e.toNat then e - 1 else e

/-- The pattern of the magnitude nearest to a quotient; of two, the one with an even last place.
What lies beyond the greatest magnitude by half a last place or more is infinite. -/
def round (num den : Nat) : Nat :=
  if num = 0 then 0
  else
    let scale := max (floorLog2 num den - f.fractionBits) f.leastScale
    let m := roundQuotient (num * 2 ^ (-scale).toNat) (den * 2 ^ scale.toNat)
    min ((scale - f.leastScale).toNat * 2 ^ f.fractionBits + m) f.infinity

/-- Exponents of ten beyond which every number is infinite or, below zero, rounds to zero. -/
def tenLimit : Nat :=
  2 ^ (f.exponentBits - 1) + f.fractionBits

/-- The pattern of the magnitude nearest to `digits * 10 ^ exponent`. -/
def ofDecimal (digits : Nat) (exponent : Int) : Nat :=
  if digits = 0 then 0
  else
    let top : Int := (Nat.toDigits 10 digits).length + exponent
    if f.tenLimit < top then f.infinity
    else if top < -f.tenLimit then 0
    else f.round (digits * 10 ^ exponent.toNat) (10 ^ (-exponent).toNat)

end Format

/-- A floating-point number of 32 bits. -/
structure Single where
  bits : UInt32
deriving DecidableEq, Inhabited

namespace Single

/-- The pattern that the word `nan` is read as, one of those that stand for no number. -/
def nan : Single := ⟨0x7FC00000⟩

/-- The pattern without its sign bit. -/
def magnitude (x : Single) : UInt32 := x.bits &&& 0x7FFFFFFF

/-- Whether the sign bit is set. -/
def isNegative (x : Single) : Bool := decide (0x80000000 ≤ x.bits)

/-- Whether the pattern stands for no number. -/
def isNan (x : Single) : Bool := decide (0x7F800000 < x.magnitude)

/-- Equality of numbers: what is not a number equals nothing, and the two zeros are equal. -/
def sameNumber (x y : Single) : Bool :=
  !x.isNan && !y.isNan && (x.bits == y.bits || (x.magnitude == 0 && y.magnitude == 0))

/-- Whether the number lies between 0 and 1, both included; a negative zero does. -/
def inUnitInterval (x : Single) : Bool :=
  decide (x.bits ≤ 0x3F800000) || x.bits == 0x80000000

end Single

/-- A floating-point number of 64 bits. -/
structure Double where
  bits : UInt64
deriving DecidableEq, Inhabited

namespace Double

/-- The pattern without its sign bit. -/
def magnitude (x : Double) : UInt64 := x.bits &&& 0x7FFFFFFFFFFFFFFF

/-- Whether the pattern stands for no number. -/
def isNan (x : Double) : Bool := decide (0x7FF0000000000000 < x.magnitude)

/-- Equality of numbers: what is not a number equals nothing, and the two zeros are equal. -/
def sameNumber (x y : Double) : Bool :=
  !x.isNan && !y.isNan && (x.bits == y.bits || (x.magnitude == 0 && y.magnitude == 0))

end Double

end OscRemote.Number
