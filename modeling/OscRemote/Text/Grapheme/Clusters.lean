import OscRemote.Text.Grapheme.Conjunct

/-!
# Graphemes

A text divided into graphemes, by the rules for extended grapheme clusters.  A text is read from its
start; `Ending` is what has to be known of the characters before a place to tell whether a grapheme
ends there.  Main statement: the graphemes make up the text.
-/

namespace OscRemote.Text

/-- What the characters of a grapheme so far show to the next character: the last one and its kind,
whether an odd number of halves of flags stand at the end, whether a pictograph does with nothing
but extenders behind it, or this and a joiner, and whether a consonant does with nothing but parts
of a conjunct behind it, and a linker among them. -/
structure Ending where
  last : Char
  kind : GraphemeKind
  oddIndicators : Bool
  pictograph : Bool
  joinedPictograph : Bool
  consonant : Bool
  linkedConsonant : Bool
deriving DecidableEq, Repr

namespace Ending

/-- The ending of a grapheme that begins with this character. -/
def start (c : Char) : Ending where
  last := c
  kind := .of c
  oddIndicators := GraphemeKind.of c = .regionalIndicator
  pictograph := GraphemeKind.of c = .pictograph
  joinedPictograph := false
  consonant := ConjunctPart.of c = .consonant
  linkedConsonant := false

/-- The ending with one more character. -/
def add (e : Ending) (c : Char) : Ending :=
  let kind := GraphemeKind.of c
  let part := ConjunctPart.of c
  let goesOn := e.consonant && (part = .linker || part = .extender)
  { last := c
    kind
    oddIndicators := kind = .regionalIndicator && !e.oddIndicators
    pictograph := kind = .pictograph || (e.pictograph && kind = .extender)
    joinedPictograph := e.pictograph && kind = .joiner
    consonant := part = .consonant || goesOn
    linkedConsonant := goesOn && (e.linkedConsonant || part = .linker) }

/-- Whether two characters of these kinds belong to one syllable of Hangul. -/
def makesSyllable : GraphemeKind → GraphemeKind → Bool
  | .leadingConsonant, .leadingConsonant | .leadingConsonant, .vowel
  | .leadingConsonant, .openSyllable | .leadingConsonant, .closedSyllable
  | .openSyllable, .vowel | .openSyllable, .trailingConsonant
  | .vowel, .vowel | .vowel, .trailingConsonant
  | .closedSyllable, .trailingConsonant | .trailingConsonant, .trailingConsonant => true
  | _, _ => false

/-- Whether the grapheme goes on with this character. -/
def joins (e : Ending) (c : Char) : Bool :=
  let kind := GraphemeKind.of c
  if e.last = '\r' ∧ c = '\n' then true
  else if e.kind = .control ∨ kind = .control then false
  else
    kind = .extender || kind = .joiner || kind = .spacingMark || e.kind = .prepended ||
      makesSyllable e.kind kind ||
      (e.linkedConsonant && ConjunctPart.of c = .consonant) ||
      (e.joinedPictograph && kind = .pictograph) ||
      (e.oddIndicators && kind = .regionalIndicator)

end Ending

/-- The graphemes of the characters behind a grapheme that is begun, held last character first. -/
def graphemesFrom (e : Ending) (begun : List Char) : List Char → List (List Char)
  | [] => [begun.reverse]
  | c :: cs =>
    if e.joins c then graphemesFrom (e.add c) (c :: begun) cs
    else begun.reverse :: graphemesFrom (.start c) [c] cs

/-- The graphemes of a text. -/
def graphemes : List Char → List (List Char)
  | [] => []
  | c :: cs => graphemesFrom (.start c) [c] cs

theorem flatten_graphemesFrom (e : Ending) (begun cs : List Char) :
    (graphemesFrom e begun cs).flatten = begun.reverse ++ cs := by
  induction cs generalizing e begun with
  | nil => simp [graphemesFrom]
  | cons c cs ih =>
    by_cases h : e.joins c <;> simp [graphemesFrom, h, ih]

/-- The graphemes make up the text. -/
theorem flatten_graphemes (cs : List Char) : (graphemes cs).flatten = cs := by
  cases cs with
  | nil => rfl
  | cons c cs => simp [graphemes, flatten_graphemesFrom]

end OscRemote.Text
