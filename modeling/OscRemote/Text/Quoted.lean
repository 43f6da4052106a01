import OscRemote.Text.Combining
import OscRemote.Text.Unprintable

/-!
# Quoted text

How an error message shows a text that it was given: in double quotes, on one line, with every
character visible.  `Quoted.encode` writes the characters between the quotes and `quoted` the whole.
-/

namespace OscRemote.Text

namespace Quoted

/-- A character by its code point: `\u`, then the hexadecimal digits in braces. -/
def byNumber (c : Char) : List Char :=
  ['\\', 'u', '\x7b'] ++ Nat.toDigits 16 c.toNat ++ ['\x7d']

/-- One character between the quotes.  A character that would join its neighbour, or that shows
nothing, is given by number. -/
def encodeChar (c : Char) : List Char :=
  match c with
  | '"' => ['\\', '"']
  | '\\' => ['\\', '\\']
  | '\n' => ['\\', 'n']
  | '\r' => ['\\', 'r']
  | '\t' => ['\\', 't']
  | '\x00' => ['\\', '0']
  | c => if combining.covers c || unprintable.covers c then byNumber c else [c]

/-- The characters between the quotes. -/
def encode (cs : List Char) : List Char :=
  cs.flatMap encodeChar

end Quoted

/-- A text in double quotes. -/
def quoted (s : String) : String :=
  String.ofList ('"' :: Quoted.encode s.toList ++ ['"'])

end OscRemote.Text
