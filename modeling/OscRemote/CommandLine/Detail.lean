import OscRemote.Client.Error
import OscRemote.Text.Quoted

/-!
# Errors in detail

An error that ends the program before it has done anything is shown in detail: by the names of its
causes, each with what it says in parentheses or braces, and with texts quoted.
-/

namespace OscRemote

/-- A name with what it says, in parentheses. -/
def named (name : String) (parts : List String) : String :=
  name ++ "(" ++ String.intercalate ", " parts ++ ")"

/-- A name with its fields, in braces. -/
def record (name : String) (fields : List (String × String)) : String :=
  let parts := fields.map fun (field, value) => field ++ ": " ++ value
  name ++ " \x7b " ++ String.intercalate ", " parts ++ " \x7d"

/-- The cause of a failure that the system reports by a number. -/
def systemDetail (code : Nat) (kind text : String) : String :=
  record "Os" [("code", toString code), ("kind", kind), ("message", Text.quoted text)]

/-- The cause of a failure that is not reported by the system. -/
def inputDetail (kind text : String) : String :=
  record "Error" [("kind", kind), ("message", Text.quoted text)]

/-- A file error in detail. -/
def FileError.detail : FileError → String
  | .notFound => systemDetail 2 "NotFound" "No such file or directory"
  | .notDirectory => systemDetail 20 "NotADirectory" "Not a directory"
  | .isDirectory => systemDetail 21 "IsADirectory" "Is a directory"
  | .nameTooLong => systemDetail 36 "InvalidFilename" "File name too long"
  | .nulInPath => inputDetail "InvalidInput" FileError.nulInPath.message
  | .invalidText => inputDetail "InvalidData" FileError.invalidText.message
  | .other text => record "Custom" [("kind", "Other"), ("error", Text.quoted text)]

/-- A configuration error in detail. -/
def ConfigError.detail : ConfigError → String
  | .file path cause => named "Io" [Text.quoted path, cause.detail]
  | .content path cause => named "Parse" [Text.quoted path, Text.quoted cause.message]
  | .validation fault => named "Validation" [Text.quoted fault.message]

/-- A message error in detail. -/
def MessageError.detail : MessageError → String
  | .address text => named "InvalidAddress" [Text.quoted text]
  | .unsupportedTag tag => named "UnsupportedType" ["'" ++ String.singleton tag ++ "'"]
  | .embeddedNul => "EmbeddedNul"
  | .badValue tag value =>
    record "InvalidArgument"
      [("tag", "'" ++ String.singleton tag ++ "'"), ("value", Text.quoted value)]

/-- A client error in detail. -/
def ClientError.detail : ClientError → String
  | .encoding cause => named "Protocol" [cause.detail]
  | .workerStart cause => named "WorkerSpawn" [cause.detail]
  | .config cause => named "Config" [cause.detail]

end OscRemote
