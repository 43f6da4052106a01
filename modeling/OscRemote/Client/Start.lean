import OscRemote.Client.Basic
import OscRemote.Transport.System

/-!
# Workers that cannot be started

A transport without a worker starts one for the message that it is to send, and the system may have
no thread to give.  Then the message is not accepted: whoever sends it is told the cause, and the
transport stays as it is, so that the same call can succeed the next time.

`Client.perform` is what a client does where every packet is accepted.  Here transports answer each
packet that is sent, and `Client.performVia` says what becomes of the client by these answers, what
it asks of the transports, and what it reports.  A bundle is taken out of the client before its
packet is sent, and a message is put into the open bundle before the packet of the full one is; so
the client may have changed although the call fails.
-/

namespace OscRemote

namespace System

/-- Sends a message, where the start of a worker comes to this if one has to be started. -/
def offer (s : System) (kind : TransportKind) (start : Except FileError Unit) (message : Octets) :
    System × Except ClientError Unit :=
  if s.transport.isRunning then (s.send kind message, .ok ())
  else
    match start with
    | .ok () => (s.send kind message, .ok ())
    | .error cause => (s, .error (.workerStart cause))

/-- What an action makes of the system, where it is possible, if the start of a worker comes to
this. -/
def attempt? (s : System) (kind : TransportKind) (start : Except FileError Unit) :
    Action → Option System
  | .send message => some (s.offer kind start message).1
  | a => s.perform? kind a

/-- A run in which the start of a worker may fail: the actions, each with what the start of a worker
comes to, lead from one system to another. -/
inductive Tries (kind : TransportKind) :
    System → List (Except FileError Unit × Action) → System → Prop
  | nil (s : System) : Tries kind s [] s
  | cons {s s' s'' : System} {start : Except FileError Unit} {a : Action}
      {tries : List (Except FileError Unit × Action)} :
      s.attempt? kind start a = some s' → Tries kind s' tries s'' →
        Tries kind s ((start, a) :: tries) s''

end System

/-- What transports answer to the packets that are sent. -/
abbrev Answers := TransportKind → Octets → Except ClientError Unit

/-- The answers of transports in these states, where the start of a worker comes to this. -/
def Answers.ofSystems (systems : TransportKind → System)
    (start : TransportKind → Except FileError Unit) : Answers :=
  fun kind packet => ((systems kind).offer kind (start kind) packet).2

/-- What comes of an operation: the client, what it asked of its transports and they accepted, and
what is reported. -/
structure Trial where
  client : Client
  asked : List Request
  result : Except ClientError Unit

namespace Client

variable (answers : Answers)

/-- Sends a packet, if there is one. -/
def sendVia (c : Client) (kind : TransportKind) : Option Octets → Trial
  | none => { client := c, asked := [], result := .ok () }
  | some packet =>
    match answers kind packet with
    | .ok () => { client := c, asked := [.send kind packet], result := .ok () }
    | .error cause => { client := c, asked := [], result := .error cause }

/-- Submits an encoded message: to the open bundle if it travels as a datagram and there is one,
else to its transport. -/
def submitVia (c : Client) (kind : TransportKind) (message : Octets) : Trial :=
  match kind, c.bundle with
  | .datagram, some open' =>
    let (open', full?) := open'.append message
    ({ c with bundle := some open' } : Client).sendVia answers .datagram full?
  | kind, _ => c.sendVia answers kind (some message)

/-- Sends the open bundle, unless it is empty, and leaves none open. -/
def endBundleVia (c : Client) : Trial :=
  ({ c with bundle := none } : Client).sendVia answers .datagram (c.bundle.bind Bundle.close)

/-- Sends the open bundle and opens another one, unless the first is not accepted. -/
def startBundleVia (c : Client) : Trial :=
  let ended := c.endBundleVia answers
  match ended.result with
  | .ok () => { ended with client := { ended.client with bundle := some {} } }
  | .error _ => ended

/-- Submits the message of an operation, if it has one. -/
def sendOperationVia (c : Client) (op : Operation) : Trial :=
  match op.message? c.config with
  | some (kind, m) =>
    match m.encode with
    | .ok packet => c.submitVia answers kind packet
    | .error cause => { client := c, asked := [], result := .error (.encoding cause) }
  | none => { client := c, asked := [], result := .ok () }

/-- Submits the message that unloads the project when the client closes: the first time only, if the
configuration asks for it and the message has an encoding. -/
def unloadOnCloseVia (c : Client) : Trial :=
  if !c.closed && c.config.onClose.unload then c.sendOperationVia answers .unload
  else { client := c, asked := [], result := .ok () }

/-- Closes.  Whether the open bundle and the message that unloads the project are accepted makes no
difference to what follows, and is not reported. -/
def closeVia (c : Client) : Trial :=
  let ended := c.endBundleVia answers
  let unloaded := ended.client.unloadOnCloseVia answers
  { client := { unloaded.client with closed := true }
    asked := ended.asked ++ unloaded.asked ++ closeRequests unloaded.client.config
    result := .ok () }

/-- Performs an operation. -/
def performVia (c : Client) : Operation → Trial
  | .startBundle => c.startBundleVia answers
  | .endBundle => c.endBundleVia answers
  | .drain =>
    { client := c, asked := [.drain .stream none, .drain .datagram none], result := .ok () }
  | .close => c.closeVia answers
  | op => c.sendOperationVia answers op

/-- Performs operations in order, each by answers of its own, passing over those that fail. -/
def performAllVia (c : Client) : List (Answers × Operation) → Client × List Request
  | [] => (c, [])
  | (answers, op) :: tries =>
    let first := c.performVia answers op
    let (c, more) := first.client.performAllVia tries
    (c, first.asked ++ more)

end Client

end OscRemote
