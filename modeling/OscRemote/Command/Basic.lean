import OscRemote.Client.Basic
import OscRemote.Command.Input

/-!
# Commands

A command is one operation on a project, written by a user as one command line; `Command.execute`
performs it and reports what was done.  A volume that is not between 0 and 1 is refused here, before
the client would pass over it.
-/

namespace OscRemote

open Number (Single)

/-- A command. -/
inductive Command where
  | load
  | unload
  | mute (on : Bool)
  | volume (level : Single)
  | systemMute (on : Bool)
  | systemVolume (level : Single)
  | send (kind : TransportKind) (address tags : String) (values : List String)
deriving DecidableEq

/-- What a command leaves behind: the client, its requests, and the report. -/
structure Outcome where
  client : Client
  requests : List Request
  report : String

/-- The word by which a report tells muting from unmuting. -/
def muteReport (on : Bool) : String := if on then "Muted" else "Unmuted"

/-- Performs an operation and reports it. -/
def Client.performReporting (c : Client) (op : Operation) (report : String) :
    Except CommandError Outcome :=
  match c.perform op with
  | .ok (client, requests) => pure { client, requests, report }
  | .error cause => throw (.client cause)

/-- Sends a message whose arguments are given as words. -/
def Client.sendWords (c : Client) (kind : TransportKind) (address tags : String)
    (values : List String) : Except CommandError Outcome := do
  let args ← readArguments (tagsOf tags) values
  c.performReporting (.send kind address args)
    ("Sent " ++ c.baseAddress ++ address ++ " (" ++ toString args.length ++ " argument(s))")

/-- Executes a command. -/
def Command.execute (c : Client) : Command → Except CommandError Outcome
  | .load => c.performReporting .load ("Loading " ++ c.baseAddress)
  | .unload => c.performReporting .unload ("Unloading " ++ c.baseAddress)
  | .mute on => c.performReporting (.mute on) (muteReport on ++ " " ++ c.baseAddress)
  | .volume level => do
    (checkVolume level).mapError .input
    c.performReporting (.volume level) ("Volume " ++ c.baseAddress ++ " to " ++ level.toText)
  | .systemMute on => c.performReporting (.systemMute on) (muteReport on ++ " system")
  | .systemVolume level => do
    (checkVolume level).mapError .input
    c.performReporting (.systemVolume level) ("Volume system to " ++ level.toText)
  | .send kind address tags values => c.sendWords kind address tags values

end OscRemote
