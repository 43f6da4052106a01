import OscRemote.Command.Input
import OscRemote.Config.Overrides
import OscRemote.Text.Blank

/-!
# The verbs of the shell

A line of the shell is a row of verbs, each with the words that it takes: none, one, or, for `send`,
all that are left.  `readLine` reads the whole line before anything of it is done.
-/

namespace OscRemote

open Number (Single)

/-- A verb with what it takes. -/
inductive Verb where
  | help
  | quit
  | load
  | unload
  | mute (on : Bool)
  | systemMute (on : Bool)
  | volume (level : Single)
  | systemVolume (level : Single)
  | send (kind : TransportKind) (address tags : String) (values : List String)
  | bundleStart
  | bundleEnd
  | drain
deriving DecidableEq

namespace Verb

/-- The words that a verb takes: none, one, which is read, or all that are left. -/
inductive Form where
  | alone (verb : Verb)
  | withWord (usage : String) (read : String → Except InputError Verb)
  | withAll (usage : String) (read : TransportKind → String → List String → Verb)

/-- Reads which end of a bundle is meant. -/
def readBundle : String → Except InputError Verb
  | "start" => pure .bundleStart
  | "end" => pure .bundleEnd
  | word => throw (.badArgument word)

/-- How the words for truth values are shown. -/
def flagUsage : String := "<true|1|false|0>"

/-- How the words for volumes are shown. -/
def volumeUsage : String := "<0-1>"

/-- The form of the verb of a name, in small letters. -/
def form? : String → Option Form
  | "help" | "?" => some (.alone .help)
  | "quit" | "exit" | "q" => some (.alone .quit)
  | "load" => some (.alone .load)
  | "unload" => some (.alone .unload)
  | "mute" => some (.withWord flagUsage fun word => mute <$> readFlag word)
  | "system_mute" => some (.withWord flagUsage fun word => systemMute <$> readFlag word)
  | "volume" => some (.withWord volumeUsage fun word => volume <$> readVolume word)
  | "system_volume" => some (.withWord volumeUsage fun word => systemVolume <$> readVolume word)
  | "bundle" => some (.withWord "<start|end>" readBundle)
  | "drain" => some (.alone .drain)
  | "send" =>
    some (.withAll "<tcp|udp> <addr> [tags] [values..]" fun kind address words =>
      .send kind address (words.head?.getD "") words.tail)
  | _ => none

/-- Reads the words of a verb that takes a transport, an address and all that is left. -/
def readAll (name usage : String) (read : TransportKind → String → List String → Verb) :
    List String → Except InputError Verb
  | [] => throw (.missingArgument name usage)
  | word :: words => do
    let kind ← (TransportKind.read word).mapError .transport
    match words with
    | [] => throw (.missingArgument name usage)
    | address :: words => pure (read kind address words)

/-- Reads a row of verbs. -/
def readWords : List String → Except InputError (List Verb)
  | [] => pure []
  | word :: words =>
    let name := Text.lowercase word
    match form? name with
    | none => throw (.unknownVerb name)
    | some (.alone verb) => do
      let verbs ← readWords words
      pure (verb :: verbs)
    | some (.withWord usage read) =>
      match words with
      | [] => throw (.missingArgument name usage)
      | word :: words => do
        let verb ← read word
        let verbs ← readWords words
        pure (verb :: verbs)
    | some (.withAll usage read) => do
      let verb ← readAll name usage read words
      pure [verb]

variable {word usage : String}

theorem readWords_of_alone {verb : Verb} (h : form? (Text.lowercase word) = some (.alone verb))
    (words : List String) : readWords (word :: words) = (readWords words).map (verb :: ·) := by
  simp only [readWords, h]
  cases readWords words <;> rfl

theorem readWords_of_withWord {read : String → Except InputError Verb}
    (h : form? (Text.lowercase word) = some (.withWord usage read)) (argument : String)
    (words : List String) :
    readWords (word :: argument :: words) =
      (read argument).bind fun verb => (readWords words).map (verb :: ·) := by
  simp only [readWords, h]
  cases read argument with
  | error fault => rfl
  | ok verb => cases readWords words <;> rfl

theorem readWords_of_withAll {read : TransportKind → String → List String → Verb}
    (h : form? (Text.lowercase word) = some (.withAll usage read)) (words : List String) :
    readWords (word :: words) =
      (readAll (Text.lowercase word) usage read words).map fun verb => [verb] := by
  simp only [readWords, h]
  cases readAll (Text.lowercase word) usage read words <;> rfl

/-- Reads a line. -/
def readLine (line : String) : Except InputError (List Verb) :=
  readWords (Text.words line)

end Verb

end OscRemote
