import OscRemote.Command.Basic
import OscRemote.Shell.Verb

/-!
# Lines of the shell

The verbs of a line are carried out in order.  The rest of the line is abandoned at the first that
fails, and at the one that leaves the shell.
-/

namespace OscRemote

/-- The text about the verbs. -/
def helpText : String :=
  String.intercalate "\n" [
    "",
    "Available commands:",
    "  help                              Show this help",
    "",
    "  load                              Load the project",
    "  unload                            Unload the project",
    "  mute <true|1|false|0>             Mute or unmute the project",
    "  volume <0-1>                      Set the project volume",
    "  system_mute <true|1|false|0>      Mute or unmute the Asset Manager",
    "  system_volume <0-1>               Set the Asset Manager volume",
    "",
    "  send <tcp|udp> <addr> [tags] [values..]",
    "                                    Send a custom message under the base address",
    "  bundle <start|end>                Start or send a UDP bundle",
    "  drain                             Wait until everything queued is sent",
    "",
    "  quit, exit                        Exit the REPL",
    ""]

/-- The word for a truth value. -/
def flagWord (on : Bool) : String := if on then "true" else "false"

/-- Carries out a verb, other than the one that leaves the shell. -/
def Verb.perform (c : Client) : Verb → Except CommandError Outcome
  | .help => pure { client := c, requests := [], report := helpText }
  | .quit => pure { client := c, requests := [], report := "" }
  | .load => c.performReporting .load "Load sent"
  | .unload => c.performReporting .unload "Unload sent"
  | .mute on => c.performReporting (.mute on) ("mute " ++ flagWord on)
  | .systemMute on => c.performReporting (.systemMute on) ("system_mute " ++ flagWord on)
  | .volume level => c.performReporting (.volume level) ("volume " ++ level.toText)
  | .systemVolume level =>
    c.performReporting (.systemVolume level) ("system_volume " ++ level.toText)
  | .send kind address tags values => c.sendWords kind address tags values
  | .bundleStart => c.performReporting .startBundle "Bundle started"
  | .bundleEnd => c.performReporting .endBundle "Bundle sent"
  | .drain => c.performReporting .drain "Drained"

/-- How a line ends: with the reports of its verbs, by leaving the shell, or by a verb that fails.
-/
inductive LineEnd where
  | reports (texts : List String)
  | quit
  | failed (cause : CommandError)
deriving DecidableEq

/-- The end of a line whose first verb reports this. -/
def LineEnd.after (report : String) : LineEnd → LineEnd
  | reports texts => reports (report :: texts)
  | quit => quit
  | failed cause => failed cause

/-- What the end of a line prints. -/
def LineEnd.text : LineEnd → String
  | reports texts => String.intercalate "\n" texts ++ "\n\n"
  | quit => ""
  | failed cause => "Error: " ++ cause.message ++ "\n\n"

/-- What a line leaves behind: the client, its requests, and how the line ended. -/
structure Turn where
  client : Client
  requests : List Request
  ending : LineEnd

namespace Client

/-- Carries out verbs in order. -/
def runVerbs (c : Client) : List Verb → Turn
  | [] => { client := c, requests := [], ending := .reports [] }
  | .quit :: _ => { client := c, requests := [], ending := .quit }
  | verb :: verbs =>
    match verb.perform c with
    | .error cause => { client := c, requests := [], ending := .failed cause }
    | .ok outcome =>
      let turn := outcome.client.runVerbs verbs
      { turn with
        requests := outcome.requests ++ turn.requests
        ending := turn.ending.after outcome.report }

/-- Carries out a line: all of it is read first. -/
def runLine (c : Client) (line : String) : Turn :=
  match Verb.readLine line with
  | .ok verbs => c.runVerbs verbs
  | .error fault => { client := c, requests := [], ending := .failed (.input fault) }

end Client

end OscRemote
