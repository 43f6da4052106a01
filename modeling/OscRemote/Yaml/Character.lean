/-!
# Characters of documents

The classes of characters by which a document is divided, and the two conditions on single
characters: `isAllowed` on those that may appear in a document at all and `isPlain` on those that
are written as themselves.
-/

namespace OscRemote.Yaml

/-- Characters that end a line.  The other forms of a line end are turned into the first of these
before a document is read. -/
def isBreak (c : Char) : Bool :=
  c == '\n' || c == '\u2028' || c == '\u2029'

/-- The character that may stand at the start of a text to tell the order of its octets. -/
def byteOrderMark : Char := '\ufeff'

/-- A blank within a line. -/
def isBlank (c : Char) : Bool :=
  c == ' ' || c == '\t'

/-- Whether the characters begin with a blank or a line end, or there are none. -/
def startsBlank : List Char → Bool
  | [] => true
  | c :: _ => isBlank c || isBreak c

/-- Characters of names. -/
def isWord (c : Char) : Bool :=
  c.isAlphanum || c == '_' || c == '-'

/-- Characters that divide the items of a bracketed collection. -/
def isFlowIndicator (c : Char) : Bool :=
  c == ',' || c == '[' || c == ']' || c == '\x7b' || c == '\x7d'

/-- Characters that may appear in a document. -/
def isAllowed (c : Char) : Bool :=
  let n := c.toNat
  n == 0x9 || n == 0xA || n == 0xD || (0x20 ≤ n && n ≤ 0x7E) || n == 0x85 ||
    (0xA0 ≤ n && n ≤ 0xD7FF) || (0xE000 ≤ n && n ≤ 0xFFFD) || 0x10000 ≤ n

/-- Characters that are written as themselves. -/
def isPlain (c : Char) : Bool :=
  let n := c.toNat
  n == 0xA || (0x20 ≤ n && n ≤ 0x7E) || (0xA0 ≤ n && n ≤ 0xD7FF) ||
    (0xE000 ≤ n && n ≤ 0xFFFD && c != byteOrderMark) || 0x10000 ≤ n

/-- Writes every end of a line in its one form; the separators of lines and of paragraphs stay. -/
def oneLineEnd : List Char → List Char
  | [] => []
  | '\r' :: '\n' :: cs => '\n' :: oneLineEnd cs
  | c :: cs => (if c = '\r' ∨ c = '\u0085' then '\n' else c) :: oneLineEnd cs

/-- Whether the characters begin with the mark of the start or the end of a document. -/
def startsDocumentMark : List Char → Bool
  | a :: b :: c :: cs => (a == '-' || a == '.') && a == b && b == c && startsBlank cs
  | _ => false

end OscRemote.Yaml
