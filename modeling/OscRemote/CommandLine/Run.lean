import OscRemote.CommandLine.Detail
import OscRemote.CommandLine.Read
import OscRemote.Config.Load
import OscRemote.Shell.Session

/-!
# The program

A run of the program takes a command line, the environment, the files and the input, and gives what
is printed, the status, and what is asked of the transports.  A status other than zero means that
nothing was asked of them.
-/

namespace OscRemote.CommandLine

/-- How the program ends. -/
structure Exit where
  status : Nat := 0
  output : String := ""
  errors : String := ""
  requests : List Request := []

/-- What the program does first: it ends, or it begins a session of the shell. -/
inductive Start where
  | exit (e : Exit)
  | shell (c : Client)

/-- The configuration that an invocation makes of one that was loaded. -/
def Invocation.apply (i : Invocation) (c : Config) : Config :=
  { c with
    host := i.host.getD c.host
    coreTransport := i.coreTransport.getD c.coreTransport
    baseAddress := i.baseAddress.getD c.baseAddress }

/-- The configuration of an invocation; the shell unloads its project when it closes. -/
def Invocation.config (files : Files) (env : Environment) (i : Invocation) :
    Except ConfigError Config := do
  let c := i.apply (← Config.load files i.file env)
  pure (if i.command.isSome then c else { c with onClose.unload := true })

/-- The end that an error brings about. -/
def failure (status : Nat) (text : String) : Exit :=
  { status, errors := "Error: " ++ text ++ "\n" }

/-- Executes a command and closes the client. -/
def once (c : Client) (command : Command) : Exit :=
  match command.execute c with
  | .error cause => failure 1 cause.message
  | .ok outcome =>
    let (_, closing) := outcome.client.close
    { output := outcome.report ++ "\n", requests := outcome.requests ++ closing }

/-- Starts what an invocation asks for. -/
def start (files : Files) (env : Environment) (i : Invocation) : Start :=
  match i.config files env with
  | .error cause => .exit (failure 1 cause.detail)
  | .ok config =>
    if config.baseAddress.isEmpty then .exit (failure 2 "a base address is required")
    else
      match Client.ofConfig config with
      | .error cause => .exit (failure 1 cause.detail)
      | .ok c =>
        match i.command with
        | some command => .exit (once c command)
        | none => .shell c

/-- The end of a program that is not asked to do anything. -/
def Reading.exit? : Reading → Option Exit
  | .invocation _ => none
  | .description => some { output := CommandLine.description }
  | .version => some { output := CommandLine.version }
  | .misuse => some { status := 2, errors := CommandLine.misuse }

/-- Runs the program. -/
def run (files : Files) (env : Environment) (words : List String) (input : String) : Exit :=
  match read env words with
  | .invocation i =>
    match start files env i with
    | .exit e => e
    | .shell c =>
      let session := Shell.run c (Shell.linesOf input)
      { output := session.output, requests := session.requests }
  | reading => (reading.exit?).getD {}

end OscRemote.CommandLine
