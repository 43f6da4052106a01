import OscRemote.Number.Integer
import OscRemote.Yaml.Error
import OscRemote.Yaml.Gap

/-!
# Reading scalars

A scalar is written in one of five ways: plain, in single or double quotes, or as a block of lines
that are kept as they are or joined.  Each reader starts behind the character that opens the scalar
(a plain one has none), and gives the text and what is left behind it.
-/

namespace OscRemote.Yaml

/-- Puts characters in front of the text that is read. -/
def prepend {α : Type} (cs : List Char) (result : Except Error (List Char × α)) :
    Except Error (List Char × α) :=
  result.map fun (text, rest) => (cs ++ text, rest)

/-! ## Plain scalars -/

/-- Whether a plain scalar ends before these characters. -/
def endsPlain (flow : Bool) : List Char → Bool
  | [] => true
  | c :: cs => (c == ':' && startsBlank cs) || (flow && isFlowIndicator c)

/-- Whether these characters begin with a colon that a bracketed collection does not admit. -/
def misplacedColon : List Char → Bool
  | ':' :: c :: _ => c == '?' || isFlowIndicator c
  | _ => false

/-- Reads the rest of a plain scalar behind a gap, at a column of its line.  Lines after the first
begin at `indent` or further right.  The flag that comes with the rest says whether it lies on a
later line than the text. -/
def plainFrom (flow : Bool) (indent : Nat) :
    (column : Nat) → Gap → List Char → Except Error (List Char × List Char × Bool)
  | _, gap, [] => .ok ([], [], gap.hasBreak)
  | column, gap, c :: cs =>
    if isBlank c then
      if gap.hasBreak && decide (column < indent) && c == '\t' then .error .tab
      else plainFrom flow indent (column + 1) (gap.addBlank c) cs
    else if isBreak c then plainFrom flow indent 0 (gap.addBreak c) cs
    else if !gap.isNone && ((!flow && decide (column < indent)) || c == '#' ||
        (column == 0 && startsDocumentMark (c :: cs))) then
      .ok ([], c :: cs, gap.hasBreak)
    else if flow && misplacedColon (c :: cs) then .error .colon
    else if endsPlain flow (c :: cs) then .ok ([], c :: cs, gap.hasBreak)
    else prepend (gap.text ++ [c]) (plainFrom flow indent (column + 1) .none cs)

/-! ## Quoted scalars -/

/-- Reads the rest of a scalar in single quotes, where a quote of the text is written twice. -/
def singleQuotedFrom :
    (lineStart : Bool) → Gap → List Char → Except Error (List Char × List Char)
  | _, _, [] => .error .unclosedQuote
  | lineStart, gap, c :: cs =>
    if isBlank c then singleQuotedFrom false (gap.addBlank c) cs
    else if isBreak c then singleQuotedFrom true (gap.addBreak c) cs
    else if lineStart && startsDocumentMark (c :: cs) then .error .documentMark
    else prepend gap.text
      (if c = '\'' then
        match cs with
        | '\'' :: cs => prepend ['\''] (singleQuotedFrom false .none cs)
        | cs => .ok ([], cs)
      else prepend [c] (singleQuotedFrom false .none cs))

/-- The character that a backslash and a letter stand for. -/
def escaped? : Char → Option Char
  | '0' => some '\x00'
  | 'a' => some '\x07'
  | 'b' => some '\x08'
  | 't' => some '\t'
  | '\t' => some '\t'
  | 'n' => some '\n'
  | 'v' => some '\x0b'
  | 'f' => some '\x0c'
  | 'r' => some '\r'
  | 'e' => some '\x1b'
  | ' ' => some ' '
  | '"' => some '"'
  | '/' => some '/'
  | '\\' => some '\\'
  | 'N' => some '\u0085'
  | '_' => some '\u00a0'
  | 'L' => some '\u2028'
  | 'P' => some '\u2029'
  | _ => none

/-- The number of hexadecimal digits behind a backslash and a letter. -/
def escapeDigits? : Char → Option Nat
  | 'x' => some 2
  | 'u' => some 4
  | 'U' => some 8
  | _ => none

/-- The character with this number. -/
def charOfNumber? (n : Nat) : Option Char :=
  if n.isValidChar then some (Char.ofNat n) else none

/-- Reads the rest of a scalar in double quotes.  Within an escape by number, `number` holds how
many digits are still to come and the value of those before. -/
def doubleQuotedFrom :
    (lineStart : Bool) → Gap → (number : Option (Nat × Nat)) → List Char →
      Except Error (List Char × List Char)
  | _, _, _, [] => .error .unclosedQuote
  | _, _, some (left, value), c :: cs =>
    match Number.digit? 16 c with
    | none => .error .escape
    | some d =>
      if left ≤ 1 then
        match charOfNumber? (16 * value + d) with
        | some c => prepend [c] (doubleQuotedFrom false .none none cs)
        | none => .error .escape
      else doubleQuotedFrom false .none (some (left - 1, 16 * value + d)) cs
  | lineStart, gap, none, c :: cs =>
    if isBlank c then doubleQuotedFrom false (gap.addBlank c) none cs
    else if isBreak c then doubleQuotedFrom true (gap.addBreak c) none cs
    else if lineStart && startsDocumentMark (c :: cs) then .error .documentMark
    else prepend gap.text
      (if c = '"' then .ok ([], cs)
      else if c = '\\' then
        match cs with
        | [] => .error .escape
        | e :: cs =>
          if isBreak e then doubleQuotedFrom true (.lines none []) none cs
          else
            match escaped? e, escapeDigits? e with
            | some c, _ => prepend [c] (doubleQuotedFrom false .none none cs)
            | none, some digits => doubleQuotedFrom false .none (some (digits, 0)) cs
            | none, none => .error .escape
      else prepend [c] (doubleQuotedFrom false .none none cs))

/-! ## Block scalars -/

/-- What becomes of the line ends at the end of a block. -/
inductive Chomping where
  | strip
  | clip
  | keep
deriving DecidableEq, Repr

/-- What a block scalar says of itself on its first line: the line ends to keep and, unless it is to
be found out, the number of columns that its lines are set in. -/
structure BlockHeader where
  chomping : Chomping := .clip
  increment : Option Nat := none
deriving DecidableEq, Repr

/-- The sign for the line ends to keep. -/
def chomping? : Char → Option Chomping
  | '+' => some .keep
  | '-' => some .strip
  | _ => none

/-- Drops the rest of a line, which may hold a comment, and its end. -/
def endOfLine (cs : List Char) : Except Error (List Char) :=
  let cs := cs.dropWhile isBlank
  let cs := if cs.head? = some '#' then cs.dropWhile fun c => !isBreak c else cs
  match cs with
  | [] => .ok []
  | c :: cs => if isBreak c then .ok cs else .error .blockHeader

/-- Reads the first line of a block scalar behind its sign. -/
def blockHeader (cs : List Char) : Except Error (BlockHeader × List Char) :=
  let increment? (c : Char) : Option Nat := if c.isDigit then some (c.toNat - '0'.toNat) else none
  let (header, cs) : BlockHeader × List Char :=
    match cs with
    | [] => ({}, [])
    | c :: cs =>
      match chomping? c, increment? c with
      | some chomping, _ =>
        match cs with
        | [] => ({ chomping }, [])
        | d :: rest =>
          match increment? d with
          | some n => ({ chomping, increment := some n }, rest)
          | none => ({ chomping }, d :: rest)
      | none, some n =>
        match cs with
        | [] => ({ increment := some n }, [])
        | d :: rest =>
          match chomping? d with
          | some chomping => ({ chomping, increment := some n }, rest)
          | none => ({ increment := some n }, d :: rest)
      | none, none => ({}, c :: cs)
  if header.increment = some 0 then .error .blockHeader
  else (endOfLine cs).map fun cs => (header, cs)

/-- The column at which the lines of a block begin: that of its first line with a text, or of a
blank line before it that reaches further. -/
def detectIndent (least : Nat) : (column widest : Nat) → List Char → Except Error Nat
  | column, widest, [] => .ok (max least (max widest column))
  | column, widest, c :: cs =>
    if c = ' ' then detectIndent least (column + 1) widest cs
    else if c = '\t' then .error .tab
    else if isBreak c then detectIndent least 0 (max widest column) cs
    else .ok (max least (max widest column))

/-- Where the reader of a block stands: within a line, or in the blanks before the column at which
lines begin, with the end of the last line, the line ends since (the last one first), and whether
that line began with a blank. -/
inductive BlockPlace where
  | inLine (blank : Bool)
  | before (column : Nat) (lastEnd : Option Char) (more : List Char) (blank : Bool)
deriving DecidableEq, Repr

/-- The line ends between two lines of a block.  Joined lines lose the first one, or have a blank
for it, unless one of them begins with a blank. -/
def betweenLines (joined : Bool) (lastEnd : Option Char) (more : List Char) (blank : Bool) :
    List Char :=
  if joined && lastEnd == some '\n' && !blank then
    if more.isEmpty then [' '] else more.reverse
  else lastEnd.toList ++ more.reverse

/-- The line ends at the end of a block. -/
def Chomping.tail : Chomping → (lastEnd : Option Char) → (more : List Char) → List Char
  | strip, _, _ => []
  | clip, lastEnd, _ => lastEnd.toList
  | keep, lastEnd, more => lastEnd.toList ++ more.reverse

/-- Reads the lines of a block that begin at column `indent`. -/
def blockFrom (joined : Bool) (chomping : Chomping) (indent : Nat) :
    BlockPlace → List Char → Except Error (List Char × List Char)
  | .inLine _, [] => .ok ([], [])
  | .before _ lastEnd more _, [] => .ok (chomping.tail lastEnd more, [])
  | .inLine blank, c :: cs =>
    if isBreak c then blockFrom joined chomping indent (.before 0 (some c) [] blank) cs
    else prepend [c] (blockFrom joined chomping indent (.inLine blank) cs)
  | .before column lastEnd more blank, c :: cs =>
    if c = ' ' ∧ column < indent then
      blockFrom joined chomping indent (.before (column + 1) lastEnd more blank) cs
    else if c = '\t' ∧ column < indent then .error .tab
    else if isBreak c then
      blockFrom joined chomping indent (.before 0 lastEnd (c :: more) blank) cs
    else if column = indent then
      prepend (betweenLines joined lastEnd more (blank || isBlank c) ++ [c])
        (blockFrom joined chomping indent (.inLine (isBlank c)) cs)
    else .ok (chomping.tail lastEnd more, c :: cs)

/-- Reads a block scalar behind its sign, inside a collection whose items begin at column `parent`,
if it is inside one. -/
def blockScalar (joined : Bool) (parent : Option Nat) (cs : List Char) :
    Except Error (List Char × List Char) := do
  let (header, cs) ← blockHeader cs
  let indent ← match header.increment with
    | some n => pure ((parent.getD 0) + n)
    | none => detectIndent (max 1 (parent.elim 0 (· + 1))) 0 0 cs
  blockFrom joined header.chomping indent (.before 0 none [] false) cs

end OscRemote.Yaml
