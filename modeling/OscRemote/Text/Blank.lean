import OscRemote.Text.CodeRanges

/-!
# Blanks

The characters with the property White_Space, and the words of a line, which stand between them.
-/

namespace OscRemote.Text

/-- Code points of blanks. -/
def blanks : CodeRanges := #[
  (0x9, 0xD), (0x20, 0x20), (0x85, 0x85), (0xA0, 0xA0), (0x1680, 0x1680), (0x2000, 0x200A),
  (0x2028, 0x2029), (0x202F, 0x202F), (0x205F, 0x205F), (0x3000, 0x3000)]

/-- Whether a character is a blank. -/
def isBlank (c : Char) : Bool :=
  blanks.covers c

/-- The words of the characters that follow `word`, the word begun, held last character first. -/
def wordsAfter (word : List Char) : List Char → List String
  | [] => if word.isEmpty then [] else [String.ofList word.reverse]
  | c :: cs =>
    if isBlank c then
      if word.isEmpty then wordsAfter [] cs else String.ofList word.reverse :: wordsAfter [] cs
    else wordsAfter (c :: word) cs

/-- The words of a text, in order: its longest stretches without a blank. -/
def words (s : String) : List String :=
  wordsAfter [] s.toList

end OscRemote.Text
