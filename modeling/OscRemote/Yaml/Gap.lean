import OscRemote.Yaml.Character

/-!
# Gaps in scalars

Between two words of a scalar stand blanks and line ends.  Blanks within a line stay as they are.  A
single line end counts as a blank, and of several the first is dropped; the blanks around line ends
count for nothing.
-/

namespace OscRemote.Yaml

/-- What stands between two words: blanks within a line, or a first line end and the line ends that
follow, in either case the last one first.  The first line end is missing if it was escaped. -/
inductive Gap where
  | blanks (cs : List Char)
  | lines (first : Option Char) (more : List Char)
deriving DecidableEq, Repr

namespace Gap

/-- No gap. -/
def none : Gap := blanks []

/-- Whether there is nothing. -/
def isNone : Gap → Bool
  | blanks cs => cs.isEmpty
  | lines _ _ => false

/-- Whether the gap reaches over the end of a line. -/
def hasBreak : Gap → Bool
  | blanks _ => false
  | lines _ _ => true

/-- The gap with a blank behind it. -/
def addBlank : Gap → Char → Gap
  | blanks cs, c => blanks (c :: cs)
  | lines first more, _ => lines first more

/-- The gap with a line end behind it. -/
def addBreak : Gap → Char → Gap
  | blanks _, c => lines (some c) []
  | lines first more, c => lines first (c :: more)

/-- What the gap stands for. -/
def text : Gap → List Char
  | blanks cs => cs.reverse
  | lines (some '\n') [] => [' ']
  | lines (some '\n') more => more.reverse
  | lines first more => first.toList ++ more.reverse

end Gap

end OscRemote.Yaml
