import OscRemote.Text.Quoted

/-!
# Why a message is refused

A message, or the text of an argument, is refused for one of four causes.
-/

namespace OscRemote

/-- Why a message has no encoding, or a text is no argument. -/
inductive MessageError where
  | address (address : String)
  | unsupportedTag (tag : Char)
  | embeddedNul
  | badValue (tag : Char) (value : String)
deriving DecidableEq, Repr

/-- The wording of a cause. -/
def MessageError.message : MessageError → String
  | .address text => "invalid OSC address " ++ Text.quoted text ++ ": must start with '/'"
  | .unsupportedTag tag => "unsupported OSC type tag '" ++ String.singleton tag ++ "'"
  | .embeddedNul => "string contains an embedded NUL byte"
  | .badValue tag value =>
    "invalid value " ++ Text.quoted value ++ " for type tag '" ++ String.singleton tag ++ "'"

end OscRemote
