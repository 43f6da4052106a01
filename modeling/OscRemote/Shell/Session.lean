import OscRemote.Shell.Line
import OscRemote.Shell.Typed

/-!
# Sessions of the shell

A session of the shell carries out lines until one of them leaves it or there are no more, and then
closes the client.  A blank line does nothing and prints nothing.
-/

namespace OscRemote

/-- The name of a transport as the shell shows it. -/
def TransportKind.name : TransportKind → String
  | .stream => "Stream"
  | .datagram => "Datagram"

namespace Shell

/-- What a session prints first. -/
def greeting (c : Config) : String :=
  "amc\nUsing base address: " ++ c.baseAddress ++ " (" ++ c.host ++ ", " ++ c.coreTransport.name ++
    ")\nType 'help' for available commands.\n\n"

/-- What is printed where the input ends. -/
def endOfInput : String := "^D\n"

/-- What a session prints last. -/
def farewell : String := "Closed.\n"

/-- What becomes of a client in a session, what it asks for and what is printed. -/
structure Session where
  client : Client
  requests : List Request
  output : String

/-- What a line prints, and whether the session goes on after it. -/
def respond (c : Client) (line : String) : Turn × String × Bool :=
  if (Text.words line).isEmpty then
    ({ client := c, requests := [], ending := .reports [] }, "", true)
  else
    let turn := c.runLine line
    (turn, turn.ending.text, turn.ending != .quit)

/-- Carries out lines until the session ends. -/
def runLines (c : Client) : List String → Session
  | [] => { client := c, requests := [], output := endOfInput }
  | line :: lines =>
    let (turn, output, goesOn) := respond c line
    if goesOn then
      let rest := runLines turn.client lines
      { rest with requests := turn.requests ++ rest.requests, output := output ++ rest.output }
    else { client := turn.client, requests := turn.requests, output }

/-- Runs a session on these lines. -/
def run (c : Client) (lines : List String) : Session :=
  let session := runLines c lines
  let (client, closing) := session.client.close
  { client
    requests := session.requests ++ closing
    output := greeting c.config ++ session.output ++ farewell }

/-- The lines of an input, after their backspaces.  An end of line at the end begins another line,
but a blank one; a return before an end of line is a blank of its line. -/
def linesOf (input : String) : List String :=
  (input.splitOn "\n").map typed

end Shell

end OscRemote
