import OscRemote.Client.Error
import OscRemote.Number.Shortest

/-!
# Why a command is refused

What a user wrote is refused for its own faults, because a value is no argument, or by the client.
-/

namespace OscRemote

open Number (Single)

/-- What is wrong with the words of a command. -/
inductive InputError where
  | notFlag (word : String)
  | badArgument (word : String)
  | volumeOutside (level : Single)
  | missingValue (tag : Char)
  | unexpectedValue (value : String)
  | missingArgument (verb usage : String)
  | unknownVerb (verb : String)
  | transport (cause : ConfigError)
deriving DecidableEq

/-- The wording of a fault. -/
def InputError.message : InputError → String
  | .notFlag word => "bad argument: " ++ word ++ " (expected true|1|false|0)"
  | .badArgument word => "bad argument: " ++ word
  | .volumeOutside level => "volume " ++ level.toText ++ " is outside 0-1"
  | .missingValue tag => "missing value for type tag '" ++ String.singleton tag ++ "'"
  | .unexpectedValue value => "unexpected value: " ++ value
  | .missingArgument verb usage => "missing argument. Usage: " ++ verb ++ " " ++ usage
  | .unknownVerb verb => "Unknown command: " ++ verb ++ ". Type 'help' for help."
  | .transport cause => cause.message

/-- Why a command is refused. -/
inductive CommandError where
  | input (fault : InputError)
  | argument (cause : MessageError)
  | client (cause : ClientError)
deriving DecidableEq

/-- The wording of a cause. -/
def CommandError.message : CommandError → String
  | .input fault => fault.message
  | .argument cause => cause.message
  | .client cause => cause.message

end OscRemote
