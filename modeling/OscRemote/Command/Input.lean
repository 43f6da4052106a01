import OscRemote.Command.Error
import OscRemote.Message.ReadArgument
import OscRemote.Number.Literal

/-!
# Values as words

The values that a user writes: truth values, volumes, and the arguments of a message, as type tags
and one value for every tag that takes one.
-/

namespace OscRemote

open Number (Single)

/-- Reads a truth value. -/
def readFlag (word : String) : Except InputError Bool :=
  match word with
  | "true" | "1" => pure true
  | "false" | "0" => pure false
  | word => throw (.notFlag word)

/-- Refuses a volume that is not between 0 and 1. -/
def checkVolume (level : Single) : Except InputError Unit :=
  if level.inUnitInterval then pure () else throw (.volumeOutside level)

/-- Reads a volume. -/
def readVolume (word : String) : Except InputError Single :=
  match Number.single? word with
  | none => throw (.badArgument word)
  | some level => do
    checkVolume level
    pure level

/-- The tags of a tag text: a comma may stand in front of them. -/
def tagsOf (text : String) : List Char :=
  match text.toList with
  | ',' :: tags => tags
  | tags => tags

/-- The value for a tag, and the values left for the tags behind it. -/
def valueFor (tag : Char) (values : List String) : Except CommandError (String × List String) :=
  if Argument.takesValue tag then
    match values with
    | value :: values => pure (value, values)
    | [] => throw (.input (.missingValue tag))
  else pure ("", values)

/-- Reads an argument for every tag. -/
def readArguments : (tags : List Char) → (values : List String) →
    Except CommandError (List Argument)
  | [], [] => pure []
  | [], value :: _ => throw (.input (.unexpectedValue value))
  | tag :: tags, values => do
    let (value, values) ← valueFor tag values
    let arg ← (Argument.read tag value).mapError .argument
    let args ← readArguments tags values
    pure (arg :: args)

end OscRemote
