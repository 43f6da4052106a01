/-!
# Whole numbers as text

A number in a base is one or more digits of that base, and a sign may stand before it: a plus or,
where the kind of number allows it, a minus.  Nothing else may stand anywhere, and any number of
zeros may lead.  A reader gives the exact value; the callers compare it with the range they admit.
-/

namespace OscRemote.Number

-- Powers are those that numbers come with, whatever else is in scope.
attribute [local instance (2000)] instPowNat

/-- The value of a digit in `base`, where letters of either case stand for ten and more. -/
def digit? (base : Nat) (c : Char) : Option Nat :=
  let value? :=
    if '0' ≤ c ∧ c ≤ '9' then some (c.toNat - '0'.toNat)
    else if 'a' ≤ c ∧ c ≤ 'z' then some (c.toNat - 'a'.toNat + 10)
    else if 'A' ≤ c ∧ c ≤ 'Z' then some (c.toNat - 'A'.toNat + 10)
    else none
  value?.filter (· < base)

/-- The value of digits that follow others of the value `high`. -/
def digitsAfter? (base high : Nat) : List Char → Option Nat
  | [] => some high
  | c :: cs => (digit? base c).bind fun d => digitsAfter? base (base * high + d) cs

/-- The value of one or more digits. -/
def digits? (base : Nat) : List Char → Option Nat
  | [] => none
  | cs => digitsAfter? base 0 cs

/-- The value of digits that a plus may precede. -/
def natural? (base : Nat) : List Char → Option Nat
  | '+' :: cs => digits? base cs
  | cs => digits? base cs

/-- The value of digits that a sign may precede. -/
def integer? (base : Nat) : List Char → Option Int
  | '-' :: cs => (digits? base cs).map fun n => -(n : Int)
  | cs => (natural? base cs).map fun n => (n : Int)

/-- A whole number from 0 to `2 ^ width - 1`. -/
def unsigned? (width base : Nat) (cs : List Char) : Option Nat :=
  (natural? base cs).filter (· < 2 ^ width)

/-- A whole number from `-2 ^ (width - 1)` to `2 ^ (width - 1) - 1`. -/
def signed? (width base : Nat) (cs : List Char) : Option Int :=
  (integer? base cs).filter fun n =>
    decide (-2 ^ (width - 1) ≤ n) && decide (n < 2 ^ (width - 1))

end OscRemote.Number
