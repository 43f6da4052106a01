import OscRemote.Command.Basic

/-!
# Command lines

What the words of a command line ask for: a command or the shell, with what they say of the
configuration.
-/

namespace OscRemote.CommandLine

/-- A command line that asks for something to be done; without a command it asks for the shell. -/
structure Invocation where
  host : Option String := none
  coreTransport : Option TransportKind := none
  file : Option String := none
  baseAddress : Option String := none
  command : Option Command := none
deriving DecidableEq

/-- What a command line says: it asks for something to be done, for the description of the program
or for its version, or it cannot be understood. -/
inductive Reading where
  | invocation (i : Invocation)
  | description
  | version
  | misuse
deriving DecidableEq

/-- The description of the program. -/
def description : String :=
  String.intercalate "\n" [
    "Control an Asset Manager over Open Sound Control",
    "",
    "Usage: amc [OPTIONS] [BASE_ADDRESS] [COMMAND]",
    "",
    "Commands:",
    "  repl           Start interactive REPL",
    "  load           Load the project",
    "  unload         Unload the project",
    "  mute           Mute or unmute the project",
    "  volume         Set the project volume",
    "  system-mute    Mute or unmute the Asset Manager",
    "  system-volume  Set the Asset Manager volume",
    "  send           Send a custom message under the base address",
    "  help           Print this message or the help of the given subcommand(s)",
    "",
    "Arguments:",
    "  [BASE_ADDRESS]  Base OSC address of the project, e.g. /MyProject [env: AMC_BASE_ADDRESS=]",
    "",
    "Options:",
    "  -i, --host <HOST>          Asset Manager host address [env: AMC_HOST=] [aliases: --ip]",
    "  -p, --protocol <PROTOCOL>  Transport for control messages (tcp or udp) [env: AMC_PROTOCOL=]",
    "  -c, --config <CONFIG>      Path to a YAML config file [env: AMC_CONFIG=]",
    "  -h, --help                 Print help",
    "  -V, --version              Print version",
    ""]

/-- The name of the program and its version. -/
def version : String := "amc 0.1.0\n"

/-- What is said of a command line that cannot be understood. -/
def misuse : String :=
  "error: the arguments cannot be understood\n\nFor more information, try '--help'.\n"

end OscRemote.CommandLine
