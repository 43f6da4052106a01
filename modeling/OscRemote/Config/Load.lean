import OscRemote.Config.OfDocument
import OscRemote.Config.Overrides
import OscRemote.Config.ToText

/-!
# Loading and saving configurations

A configuration comes from three sources: the defaults, a file and the environment, of which the
later wins.  The file is the one that is named, or else the one that the environment names.
-/

namespace OscRemote

namespace Config

/-- Reads the file at a path. -/
def ofFile (files : Files) (path : String) : Except ConfigError Config :=
  match files.text path with
  | .error cause => throw (.file path cause)
  | .ok text =>
    match ofText text with
    | .error cause => throw (.content path cause)
    | .ok config => pure config

/-- The path of the file to be read. -/
def source? (path? : Option String) (env : Environment) : Option String :=
  path?.or (env "AMC_CONFIG")

/-- Loads a configuration. -/
def load (files : Files) (path? : Option String) (env : Environment) :
    Except ConfigError Config := do
  let config ← match source? path? env with
    | some path => ofFile files path
    | none => pure {}
  pure (config.override env)

/-- Saves a configuration in a file of a directory. -/
def save (c : Config) (folder : Folder) (path : String) : Except ConfigError Folder :=
  match folder.write path (octetsOf c.toText) with
  | .error cause => throw (.file path cause)
  | .ok folder => pure folder

end Config

end OscRemote
