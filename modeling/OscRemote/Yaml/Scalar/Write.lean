import OscRemote.Yaml.Character
import OscRemote.Yaml.Scalar.Kind
import OscRemote.Yaml.Token

/-!
# Writing scalars

A text is written plain if it reads back as a text that way, else in single quotes, else in double
quotes; a text of several lines is written as a block if its lines can stand as they are.
`chooseStyle` makes the choice and `writeScalar` writes.  A block comes with its last line end, the
other styles with none.
-/

namespace OscRemote.Yaml

/-- Whether some two characters in a row are of these kinds. -/
def hasPair (first second : Char → Bool) : List Char → Bool
  | a :: b :: cs => (first a && second b) || hasPair first second (b :: cs)
  | _ => false

/-- Whether a character would begin something else than a plain scalar at the start of a text. -/
def misleadsAtStart (c : Char) (cs : List Char) : Bool :=
  "#,[]\x7b\x7d&*!|>'\"%@\x60".toList.contains c ||
    ((c == '?' || c == ':' || c == '-') && startsBlank cs)

/-- Whether a colon behind the first character ends the scalar, or a comment begins. -/
def misleadsWithin : List Char → Bool
  | a :: b :: cs =>
    (b == ':' && startsBlank cs) || (b == '#' && (isBlank a || isBreak a)) ||
      misleadsWithin (b :: cs)
  | _ => false

/-- Whether the text could be taken for something else than a scalar. -/
def misleads (cs : List Char) : Bool :=
  List.isPrefixOf "---".toList cs || List.isPrefixOf "...".toList cs ||
    (match cs with
      | [] => false
      | c :: rest => misleadsAtStart c rest) ||
    misleadsWithin cs

/-- Whether a text begins or ends with a character of a kind. -/
def hasAtEnd (p : Char → Bool) (cs : List Char) : Bool :=
  cs.head?.any p || cs.getLast?.any p

/-- A blank, in the sense of the writer: tabs are always given by an escape. -/
def isSpace (c : Char) : Bool := c == ' '

/-- Whether the text can be written in single quotes: blanks beside line ends would be lost. -/
def allowsSingleQuotes (cs : List Char) : Bool :=
  cs.all isPlain && !hasPair isBreak isSpace cs && !hasPair isSpace isBreak cs

/-- Whether the text can be written plain. -/
def allowsPlain (cs : List Char) : Bool :=
  allowsSingleQuotes cs && !cs.any isBreak && !hasAtEnd isSpace cs && !misleads cs

/-- Whether the text can be written as a block: lines may not end in blanks. -/
def allowsBlock (cs : List Char) : Bool :=
  cs.all isPlain && !hasPair isSpace isBreak cs && !cs.getLast?.any isSpace

/-- The style in which a text is written. -/
def chooseStyle (cs : List Char) : Style :=
  if cs.contains '\n' then
    if allowsBlock cs then .literal else .doubleQuoted
  else if !isOther cs && allowsPlain cs then .plain
  else if allowsSingleQuotes cs then .singleQuoted
  else .doubleQuoted

/-- Hexadecimal digits in capitals, at least `width` of them. -/
def hexDigits (width n : Nat) : List Char :=
  let digits := (Nat.toDigits 16 n).map Char.toUpper
  List.replicate (width - digits.length) '0' ++ digits

/-- The letter that stands for a character behind a backslash. -/
def escapeLetter? : Char → Option Char
  | '\x00' => some '0'
  | '\x07' => some 'a'
  | '\x08' => some 'b'
  | '\t' => some 't'
  | '\n' => some 'n'
  | '\x0b' => some 'v'
  | '\x0c' => some 'f'
  | '\r' => some 'r'
  | '\x1b' => some 'e'
  | '"' => some '"'
  | '\\' => some '\\'
  | '\u0085' => some 'N'
  | '\u00a0' => some '_'
  | '\u2028' => some 'L'
  | '\u2029' => some 'P'
  | _ => none

/-- A character in double quotes. -/
def doubleQuotedChar (c : Char) : List Char :=
  if isPlain c && !isBreak c && c != '"' && c != '\\' then [c]
  else
    match escapeLetter? c with
    | some letter => ['\\', letter]
    | none =>
      let n := c.toNat
      if n ≤ 0xFF then '\\' :: 'x' :: hexDigits 2 n
      else if n ≤ 0xFFFF then '\\' :: 'u' :: hexDigits 4 n
      else '\\' :: 'U' :: hexDigits 8 n

/-- Writes the characters between single quotes, with the blanks in front of a line that follows a
line end. -/
def singleQuotedChars (indent : Nat) : (lineStart : Bool) → List Char → List Char
  | lineStart, [] => if lineStart then List.replicate indent ' ' else []
  | lineStart, c :: cs =>
    if isBreak c then c :: singleQuotedChars indent true cs
    else
      (if lineStart then List.replicate indent ' ' else []) ++
        (if c = '\'' then ['\'', '\''] else [c]) ++ singleQuotedChars indent false cs

/-- Writes the lines of a block, each that is not empty behind blanks. -/
def blockChars (indent : Nat) : (lineStart : Bool) → List Char → List Char
  | _, [] => []
  | lineStart, c :: cs =>
    if isBreak c then c :: blockChars indent true cs
    else (if lineStart then List.replicate indent ' ' else []) ++ c :: blockChars indent false cs

/-- What a block says of itself: how far its lines are set in, if the first does not show it, and
what becomes of the line ends at the end. -/
def blockHints (indent : Nat) (cs : List Char) : List Char :=
  (if cs.head?.any fun c => isSpace c || isBreak c then Nat.toDigits 10 indent else []) ++
    match cs.reverse with
    | [] => ['-']
    | [c] => if isBreak c then ['+'] else ['-']
    | c :: d :: _ => if isBreak c then (if isBreak d then ['+'] else []) else ['-']

/-- Writes a text whose lines are set in by `indent`. -/
def writeScalar (indent : Nat) (cs : List Char) : List Char :=
  match chooseStyle cs with
  | .plain => cs
  | .singleQuoted => '\'' :: singleQuotedChars indent false cs ++ ['\'']
  | .literal | .folded =>
    '|' :: blockHints indent cs ++ '\n' :: blockChars indent true cs ++
      (if cs.getLast?.any isBreak then [] else ['\n'])
  | .doubleQuoted => '"' :: cs.flatMap doubleQuotedChar ++ ['"']

/-- Writes a text and ends the line. -/
def writeScalarLine (indent : Nat) (cs : List Char) : List Char :=
  match chooseStyle cs with
  | .literal | .folded => writeScalar indent cs
  | _ => writeScalar indent cs ++ ['\n']

end OscRemote.Yaml
