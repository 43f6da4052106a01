import OscRemote.Number.Binary
import OscRemote.Number.Integer

/-!
# Decimal fractions as text

A literal is an optional sign and then either a word (`inf`, `infinity` or `nan`, in letters of any
case) or digits with an optional point among or beside them and an optional exponent.  It stands for
an exact value, which `Literal.toSingle` and `Literal.toDouble` round once, straight to their width.
-/

namespace OscRemote.Number

-- Powers are those that numbers come with, whatever else is in scope.
attribute [local instance (2000)] instPowNat

/-- What a text that spells a number stands for. -/
inductive Literal where
  | notANumber (negative : Bool)
  | infinite (negative : Bool)
  | decimal (negative : Bool) (digits : Nat) (exponent : Int)
deriving DecidableEq

namespace Literal

/-- The exponent after the digits: nothing, or the letter and a number with an optional sign. -/
def exponent? : List Char → Option Int
  | [] => some 0
  | c :: cs => if c = 'e' ∨ c = 'E' then integer? 10 cs else none

/-- Digits, with a point that some may follow, and an exponent. -/
def decimal? (negative : Bool) (cs : List Char) : Option Literal :=
  let (whole, rest) := cs.span Char.isDigit
  let (fraction, rest) :=
    match rest with
    | '.' :: rest => rest.span Char.isDigit
    | rest => ([], rest)
  (digits? 10 (whole ++ fraction)).bind fun digits =>
    (exponent? rest).map fun e => .decimal negative digits (e - fraction.length)

/-- A number without its sign. -/
def unsigned? (negative : Bool) (cs : List Char) : Option Literal :=
  let word := cs.map Char.toLower
  if word = "inf".toList ∨ word = "infinity".toList then some (.infinite negative)
  else if word = "nan".toList then some (.notANumber negative)
  else decimal? negative cs

/-- Reads a literal. -/
def read? : List Char → Option Literal
  | '-' :: cs => unsigned? true cs
  | '+' :: cs => unsigned? false cs
  | cs => unsigned? false cs

/-- The pattern nearest to the value in a format, with its sign; what is not a number has a sign
too. -/
def round (f : Format) : Literal → Nat
  | notANumber negative =>
    (if negative then f.signBit else 0) + f.infinity + 2 ^ (f.fractionBits - 1)
  | infinite negative => (if negative then f.signBit else 0) + f.infinity
  | decimal negative digits exponent =>
    (if negative then f.signBit else 0) + f.ofDecimal digits exponent

/-- The nearest number of 32 bits. -/
def toSingle (x : Literal) : Single := ⟨UInt32.ofNat (x.round .single)⟩

/-- The nearest number of 64 bits. -/
def toDouble (x : Literal) : Double := ⟨UInt64.ofNat (x.round .double)⟩

end Literal

/-- Reads a number of 32 bits. -/
def single? (s : String) : Option Single := (Literal.read? s.toList).map (·.toSingle)

/-- Reads a number of 64 bits. -/
def double? (s : String) : Option Double := (Literal.read? s.toList).map (·.toDouble)

end OscRemote.Number
