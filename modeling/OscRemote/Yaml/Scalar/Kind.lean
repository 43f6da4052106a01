import OscRemote.Number.Literal

/-!
# What a plain scalar might stand for

A plain scalar is a text, but a reader that does not know what to expect takes some of them for the
missing value, a truth value or a number.  `isOther` finds those, so that a writer can quote them.
-/

namespace OscRemote.Yaml

open Number (Literal Format)

-- Powers are those that numbers come with, whatever else is in scope.
attribute [local instance (2000)] instPowNat

/-- The words for the missing value. -/
def isNull (cs : List Char) : Bool :=
  ["~", "null", "Null", "NULL"].contains (String.ofList cs)

/-- The words for truth values. -/
def flag? (cs : List Char) : Option Bool :=
  if ["true", "True", "TRUE"].contains (String.ofList cs) then some true
  else if ["false", "False", "FALSE"].contains (String.ofList cs) then some false
  else none

/-- Whether the text is a row of digits that begins with a zero but is not zero alone: such a row is
no number, with or without a sign. -/
def hasLeadingZero (cs : List Char) : Bool :=
  let digits := match cs with
    | '-' :: cs => cs
    | '+' :: cs => cs
    | cs => cs
  match digits with
  | '0' :: c :: cs => (c :: cs).all Char.isDigit
  | _ => false

/-- The base that a number names by the letter behind its first zero. -/
def base? : List Char → Option (Nat × List Char)
  | '0' :: 'x' :: cs => some (16, cs)
  | '0' :: 'o' :: cs => some (8, cs)
  | '0' :: 'b' :: cs => some (2, cs)
  | _ => none

/-- A whole number below `2 ^ width`. -/
def unsigned? (width : Nat) (cs : List Char) : Option Nat :=
  let digits := match cs with
    | '+' :: cs => cs
    | cs => cs
  let value? := match base? digits with
    | some (base, digits) => Number.digits? base digits
    | none => if hasLeadingZero cs then none else Number.digits? 10 digits
  value?.filter (· < 2 ^ width)

/-- A whole number from `-2 ^ (width - 1)` to `-1`, or zero with a minus. -/
def negative? (width : Nat) : List Char → Option Nat
  | '-' :: cs =>
    let value? := match base? cs with
      | some (base, digits) => Number.digits? base digits
      | none => if hasLeadingZero cs then none else Number.digits? 10 cs
    value?.filter (· ≤ 2 ^ (width - 1))
  | _ => none

/-- Whether the text spells a number with a fraction or an exponent, or an infinity or the like. -/
def isFraction (cs : List Char) : Bool :=
  let body := match cs with
    | '+' :: cs => cs
    | cs => cs
  if cs.head? = some '+' ∧ (body.head? = some '+' ∨ body.head? = some '-') then false
  else
    [".inf", ".Inf", ".INF"].contains (String.ofList body) ||
    ["-.inf", "-.Inf", "-.INF", ".nan", ".NaN", ".NAN"].contains (String.ofList cs) ||
    match Literal.read? body with
    | some (.decimal _ digits exponent) =>
      decide (Format.double.ofDecimal digits exponent < Format.double.infinity)
    | _ => false

/-- Whether a reader might take the text for something else than a text. -/
def isOther (cs : List Char) : Bool :=
  cs.isEmpty || isNull cs || (flag? cs).isSome || hasLeadingZero cs ||
    (unsigned? 128 cs).isSome || (negative? 128 cs).isSome || isFraction cs

end OscRemote.Yaml
