import OscRemote.CommandLine.Basic
import OscRemote.Config.Overrides

/-!
# Reading command lines

Options come first or between, each at most once, with their values behind an equals sign, behind
the letter, or as the next word.  The first other word is the base address, unless it is the name
of a command, to which all words behind it belong.  Behind a word of two hyphens every word stands
for itself.  What the options do not say, the environment may.
-/

namespace OscRemote.CommandLine

open Number (Single)

/-- What reading ends with before all words are read. -/
abbrev Reader (α : Type) := Except Reading α

/-- Turns the absence of a value into misuse. -/
def orMisuse {α : Type} : Option α → Reader α
  | some value => pure value
  | none => throw .misuse

/-- The options that take a value. -/
inductive Setting where
  | host
  | protocol
  | file
deriving DecidableEq

/-- An option. -/
inductive Flag where
  | setting (s : Setting)
  | description
  | version
deriving DecidableEq

/-- The option of a long name. -/
def longFlag? : String → Option Flag
  | "host" | "ip" => some (.setting .host)
  | "protocol" => some (.setting .protocol)
  | "config" => some (.setting .file)
  | "help" => some .description
  | "version" => some .version
  | _ => none

/-- The option of a letter. -/
def shortFlag? : Char → Option Flag
  | 'i' => some (.setting .host)
  | 'p' => some (.setting .protocol)
  | 'c' => some (.setting .file)
  | 'h' => some .description
  | 'V' => some .version
  | _ => none

/-- A word of a command line: options with the value of the last, two hyphens, or another word. -/
inductive Word where
  | flag (f : Flag) (value : Option String)
  | unknownFlag
  | escape
  | plain (text : String)
deriving DecidableEq

/-- Reads a word; of several letters behind one hyphen the first decides, and those behind it are
its value, if it takes one. -/
def Word.read (text : String) : Word :=
  match text.toList with
  | ['-', '-'] => .escape
  | '-' :: '-' :: long =>
    let (name, value) := long.span (· != '=')
    match longFlag? (String.ofList name) with
    | none => .unknownFlag
    | some f => .flag f (value.tail?.map String.ofList)
  | '-' :: letter :: value =>
    match shortFlag? letter, value with
    | none, _ => .unknownFlag
    | some (.setting s), '=' :: value => .flag (.setting s) (some (String.ofList value))
    | some (.setting s), letter :: value =>
      .flag (.setting s) (some (String.ofList (letter :: value)))
    | some f, _ => .flag f none
  | _ => .plain text

/-- The invocation with a setting, which must not be there yet. -/
def Invocation.set (i : Invocation) (value : String) : Setting → Reader Invocation
  | .host => if i.host.isSome then throw .misuse else pure { i with host := some value }
  | .protocol => do
    let kind ← orMisuse (TransportKind.read value).toOption
    if i.coreTransport.isSome then throw .misuse else pure { i with coreTransport := some kind }
  | .file =>
    if i.file.isSome || value.isEmpty then throw .misuse else pure { i with file := some value }

/-- What stands behind the operands of a command: words that are not looked at yet, words that stand
for themselves, or what ends the reading. -/
inductive Rest where
  | unread (words : List String)
  | escaped (words : List String)
  | stopped (r : Reading)
deriving DecidableEq

/-- The first operands of a command, at most `count` of them, and what stands behind them. -/
def operands : (count : Nat) → List String → List String × Rest
  | 0, words => ([], .unread words)
  | _ + 1, [] => ([], .unread [])
  | count + 1, word :: words =>
    match Word.read word with
    | .escape => (words.take (count + 1), .escaped (words.drop (count + 1)))
    | .plain text =>
      let (texts, rest) := operands count words
      (text :: texts, rest)
    | .flag .description none => ([], .stopped .description)
    | _ => ([], .stopped .misuse)

namespace Rest

/-- Refuses that anything is left. -/
def nothing : Rest → Reader Unit
  | unread [] | escaped [] => pure ()
  | escaped _ => throw .misuse
  | stopped r => throw r
  | unread (word :: words) =>
    match Word.read word with
    | .escape => if words.isEmpty then pure () else throw .misuse
    | .flag .description none => throw .description
    | _ => throw .misuse

/-- What is left as values, of which any may begin with a hyphen.  Only the first might be an option
instead. -/
def values : Rest → Reader (List String)
  | unread [] => pure []
  | escaped words => pure words
  | stopped r => throw r
  | unread (word :: words) =>
    match Word.read word with
    | .escape => pure words
    | .flag .description none =>
      if word.startsWith "--" || (word.toList.drop 1).all (· == 'h') then throw .description
      else pure (word :: words)
    | .flag .description (some _) => throw .misuse
    | _ => pure (word :: words)

end Rest

/-- Reads a command that takes nothing. -/
def readAlone (command : Option Command) (words : List String) : Reader (Option Command) := do
  (Rest.unread words).nothing
  pure command

/-- Reads a command that takes one value. -/
def readWith {α : Type} (read : String → Option α) (make : α → Command) (words : List String) :
    Reader (Option Command) := do
  let (texts, rest) := operands 1 words
  match texts with
  | word :: _ =>
    let value ← orMisuse (read word)
    rest.nothing
    pure (some (make value))
  | [] =>
    rest.nothing
    throw .misuse

/-- Reads the words of the command that sends a message. -/
def readSend (words : List String) : Reader (Option Command) := do
  let (texts, rest) := operands 3 words
  match texts with
  | word :: texts =>
    let kind ← orMisuse (TransportKind.read word).toOption
    let values ← rest.values
    match texts with
    | [] => throw .misuse
    | address :: texts => pure (some (.send kind address (texts.head?.getD "") values))
  | [] =>
    rest.nothing
    throw .misuse

/-- Reads what asks for the description of a command. -/
def readDescription : List String → Reader (Option Command)
  | [] => throw .description
  | [name] =>
    if ["repl", "load", "unload", "mute", "volume", "system-mute", "system-volume", "send",
      "help"].contains name then throw .description
    else throw .misuse
  | _ => throw .misuse

/-- The reader of the words of a command. -/
def command? : String → Option (List String → Reader (Option Command))
  | "repl" => some (readAlone none)
  | "load" => some (readAlone (some .load))
  | "unload" => some (readAlone (some .unload))
  | "mute" => some (readWith (fun word => (readFlag word).toOption) .mute)
  | "system-mute" => some (readWith (fun word => (readFlag word).toOption) .systemMute)
  | "volume" => some (readWith Number.single? .volume)
  | "system-volume" => some (readWith Number.single? .systemVolume)
  | "send" => some readSend
  | "help" => some readDescription
  | _ => none

/-- The invocation with a base address, which must not be there yet. -/
def Invocation.address (i : Invocation) (text : String) : Reader Invocation :=
  if i.baseAddress.isSome then throw .misuse else pure { i with baseAddress := some text }

/-- Reads the words of a command line behind those that made this invocation. -/
def readWords (i : Invocation) : List String → Reader Invocation
  | [] => pure i
  | word :: words =>
    match command? word with
    | some read => do
      let command ← read words
      pure { i with command }
    | none =>
      match Word.read word with
      | .escape => words.foldlM Invocation.address i
      | .plain text => do
        let i ← i.address text
        readWords i words
      | .flag .description none => throw .description
      | .flag .version none => throw .version
      | .flag (.setting s) (some value) => do
        let i ← i.set value s
        readWords i words
      | .flag (.setting s) none =>
        match words with
        | [] => throw .misuse
        | value :: words =>
          match Word.read value with
          | .plain value => do
            let i ← i.set value s
            readWords i words
          | _ => throw .misuse
      | _ => throw .misuse

/-- The invocation, with what the environment says where it says nothing. -/
def Invocation.complete (env : Environment) (i : Invocation) : Reader Invocation := do
  let host := i.host.or (env "AMC_HOST")
  let baseAddress := i.baseAddress.or (env "AMC_BASE_ADDRESS")
  let i := { i with host, baseAddress }
  let i ← match i.coreTransport, env "AMC_PROTOCOL" with
    | none, some word => i.set word .protocol
    | _, _ => pure i
  match i.file, env "AMC_CONFIG" with
  | none, some path => i.set path .file
  | _, _ => pure i

/-- Reads a command line. -/
def read (env : Environment) (words : List String) : Reading :=
  match readWords {} words >>= Invocation.complete env with
  | .ok i => .invocation i
  | .error reading => reading

end OscRemote.CommandLine
