import OscRemote.Text.Case

/-!
# Small letters

`lowercase` writes a text in small letters.  Every letter has one small form, but for two: the
dotted capital I, whose small form keeps the dot as a mark of its own, and the capital sigma, whose
small form at the end of a word differs from the one elsewhere.
-/

namespace OscRemote.Text

/-- Whether the run maps this code point. -/
def LowerRun.covers (r : LowerRun) (n : Nat) : Bool :=
  decide (r.first ≤ n) && decide (n ≤ r.last) && (n - r.first) % r.stride == 0

/-- The small form of a character on its own. -/
def lowerChar (c : Char) : List Char :=
  if c = 'İ' then ['i', '\u0307']
  else
    match lowerRuns.find? (·.covers c.toNat) with
    | some r => [Char.ofNat (c.toNat + r.shift).toNat]
    | none => [c]

/-- Whether the first character that counts is a letter with a case. -/
def startsCased (cs : List Char) : Bool :=
  match cs.dropWhile caseIgnorable.covers with
  | c :: _ => cased.covers c
  | [] => false

/-- The small forms of the characters that follow `before`, which is held last character first. -/
def lowerAfter (before : List Char) : List Char → List Char
  | [] => []
  | c :: after =>
    (if c = 'Σ' then [if startsCased before && !startsCased after then 'ς' else 'σ']
      else lowerChar c) ++ lowerAfter (c :: before) after

/-- A text in small letters. -/
def lowercase (s : String) : String :=
  String.ofList (lowerAfter [] s.toList)

end OscRemote.Text
