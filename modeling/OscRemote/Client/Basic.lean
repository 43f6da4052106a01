import OscRemote.Bundle
import OscRemote.Client.Error
import OscRemote.Config.Validate
import OscRemote.Message.Encode
import OscRemote.Number.Decibels

/-!
# The client

A client turns operations on a project into requests to its two transports.  What it holds between
two operations is its configuration, the bundle that is open, if one is, and whether it was closed
before.  `Client.perform` says what becomes of it, and what it asks of the transports, in order, where
these accept every packet; an operation that fails leaves it as it was and asks for nothing.  What
comes of a packet that is not accepted is in `OscRemote.Client.Start`.
-/

namespace OscRemote

open Number (Single)

/-- What a client asks of its transports: to queue a packet, to wait until all that was queued is
gone, for some milliseconds at most if there is a limit, and to close. -/
inductive Request where
  | send (kind : TransportKind) (packet : Octets)
  | drain (kind : TransportKind) (limit : Option UInt64)
  | close (kind : TransportKind)
deriving DecidableEq

/-- A client with a configuration that can be right. -/
structure Client where
  config : Config
  isValid : config.fault? = none
  bundle : Option Bundle := none
  closed : Bool := false
deriving DecidableEq

/-- The operations of a client. -/
inductive Operation where
  | load
  | unload
  | mute (on : Bool)
  | systemMute (on : Bool)
  | volume (level : Single)
  | systemVolume (level : Single)
  | send (kind : TransportKind) (address : String) (args : List Argument)
  | startBundle
  | endBundle
  | drain
  | close
deriving DecidableEq

/-- The argument by which a message mutes or unmutes. -/
def muteArgument (on : Bool) : Argument :=
  .int32 (if on then 1 else 0)

namespace Operation

/-- The message of an operation that has one, and the transport on which it travels.  A volume that
is not between 0 and 1 has none. -/
def message? (c : Config) : Operation → Option (TransportKind × Message)
  | load => some (c.coreTransport, ⟨"/AM/Load", [.text c.baseAddress]⟩)
  | unload => some (c.coreTransport, ⟨"/AM/Unload", [.text c.baseAddress]⟩)
  | mute on => some (c.coreTransport, ⟨"/AM/Project/Mute", [.text c.baseAddress, muteArgument on]⟩)
  | systemMute on => some (c.coreTransport, ⟨"/AM/Mute", [muteArgument on]⟩)
  | volume level =>
    if level.inUnitInterval then
      some (c.coreTransport,
        ⟨"/AM/Project/Volume", [.text c.baseAddress, .float32 level.decibels]⟩)
    else none
  | systemVolume level =>
    if level.inUnitInterval then some (c.coreTransport, ⟨"/AM/Volume", [.float32 level.decibels]⟩)
    else none
  | send kind address args => some (kind, ⟨c.baseAddress ++ address, args⟩)
  | startBundle | endBundle | drain | close => none

end Operation

namespace Client

/-- A client with this configuration. -/
def ofConfig (config : Config) : Except ClientError Client :=
  match h : config.fault? with
  | none => pure { config, isValid := h }
  | some fault => throw (.config (.validation fault))

/-- The base address of the project. -/
def baseAddress (c : Client) : String := c.config.baseAddress

/-- Whether a bundle is open. -/
def isBundling (c : Client) : Bool := c.bundle.isSome

/-- Submits an encoded message: to the open bundle if it travels as a datagram and there is one,
else to its transport. -/
def submit (c : Client) (kind : TransportKind) (message : Octets) : Client × List Request :=
  match kind, c.bundle with
  | .datagram, some open' =>
    let (open', full?) := open'.append message
    ({ c with bundle := some open' }, full?.toList.map (.send .datagram))
  | kind, _ => (c, [.send kind message])

/-- Sends the open bundle, unless it is empty, and leaves none open. -/
def endBundle (c : Client) : Client × List Request :=
  ({ c with bundle := none }, (c.bundle.bind Bundle.close).toList.map (.send .datagram))

/-- Encodes a message and submits it. -/
def sendMessage (c : Client) (kind : TransportKind) (m : Message) :
    Except ClientError (Client × List Request) :=
  match m.encode with
  | .ok packet => pure (c.submit kind packet)
  | .error cause => throw (.encoding cause)

/-- Submits the message of an operation, if it has one. -/
def sendOperation (c : Client) (op : Operation) : Except ClientError (Client × List Request) :=
  match op.message? c.config with
  | some (kind, m) => c.sendMessage kind m
  | none => pure (c, [])

/-- Submits the message that unloads the project when the client closes: the first time only, if the
configuration asks for it and the message has an encoding. -/
def unloadOnClose (c : Client) : Client × List Request :=
  if !c.closed && c.config.onClose.unload then (c.sendOperation .unload).toOption.getD (c, [])
  else (c, [])

/-- The requests by which both transports are closed, after they are drained if the policy is to. -/
def closeRequests (c : Config) : List Request :=
  (match c.onClose.policy with
    | .drainFirst =>
      [.drain .stream (some c.onClose.drainTimeout), .drain .datagram (some c.onClose.drainTimeout)]
    | .closeImmediately => []) ++
  [.close .stream, .close .datagram]

/-- Closes: the open bundle is sent, then the project is unloaded, then both transports close. -/
def close (c : Client) : Client × List Request :=
  let (c, bundled) := c.endBundle
  let (c, unloading) := c.unloadOnClose
  ({ c with closed := true }, bundled ++ unloading ++ closeRequests c.config)

/-- Performs an operation. -/
def perform (c : Client) : Operation → Except ClientError (Client × List Request)
  | .startBundle =>
    let (c, requests) := c.endBundle
    pure ({ c with bundle := some {} }, requests)
  | .endBundle => pure c.endBundle
  | .drain => pure (c, [.drain .stream none, .drain .datagram none])
  | .close => pure c.close
  | op => c.sendOperation op

/-- Performs operations in order, passing over those that fail. -/
def performAll (c : Client) : List Operation → Client × List Request
  | [] => (c, [])
  | op :: ops =>
    let (c, first) := (c.perform op).toOption.getD (c, [])
    let (c, more) := c.performAll ops
    (c, first ++ more)

end Client

/-- The requests by which one transport goes away. -/
def TransportSettings.leaveRequests (s : TransportSettings) (kind : TransportKind) : List Request :=
  (match s.closePolicy with
    | .drainFirst => [.drain kind (some s.drainTimeout)]
    | .closeImmediately => []) ++ [.close kind]

end OscRemote
