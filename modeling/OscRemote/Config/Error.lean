import OscRemote.Files
import OscRemote.Yaml.Error

/-!
# Why there is no configuration

A configuration is missing because its file cannot be read or written, because the file's text does
not describe one, or because what it says cannot be right.
-/

namespace OscRemote

/-- Why a text does not describe a configuration: it is no document, or a value is not what its
place asks for. -/
inductive Misreading where
  | document (cause : Yaml.Error)
  | notMapping
  | keyNotText
  | repeated (field : String)
  | notText
  | notNumber
  | notFlag
  | unknownWord
  | other (text : String)
deriving DecidableEq, Repr

/-- The wording of a cause. -/
def Misreading.message : Misreading → String
  | .document cause => cause.message
  | .notMapping => "expected a mapping"
  | .keyNotText => "expected a field name"
  | .repeated field => "duplicate field \x60" ++ field ++ "\x60"
  | .notText => "expected a text"
  | .notNumber => "expected a whole number within its range"
  | .notFlag => "expected a truth value"
  | .unknownWord => "unknown word"
  | .other text => text

/-- What cannot be right in a configuration. -/
inductive Invalidity where
  | relativeBaseAddress (address : String)
  | emptyHost
  | zeroPort
  | unknownProtocol (word : String)
  | other (text : String)
deriving DecidableEq, Repr

/-- The wording of a fault. -/
def Invalidity.message : Invalidity → String
  | .relativeBaseAddress address => "base address '" ++ address ++ "' must start with '/'"
  | .emptyHost => "host is empty"
  | .zeroPort => "ports must be non-zero"
  | .unknownProtocol word => "unrecognized protocol: " ++ word
  | .other text => text

/-- Why there is no configuration. -/
inductive ConfigError where
  | file (path : String) (cause : FileError)
  | content (path : String) (cause : Misreading)
  | validation (fault : Invalidity)
deriving DecidableEq, Repr

/-- The wording of a cause. -/
def ConfigError.message : ConfigError → String
  | .file path cause => "failed to read config file '" ++ path ++ "': " ++ cause.message
  | .content path cause => "failed to parse config file '" ++ path ++ "': " ++ cause.message
  | .validation fault => "configuration validation failed: " ++ fault.message

end OscRemote
