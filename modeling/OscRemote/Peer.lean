import OscRemote.Client.Basic
import OscRemote.Frame
import OscRemote.Transport.System

/-!
# A transport and its peer

A `Link` is a transport with the peer that it talks to.  The peer answers in one of four ways,
always at once if it answers at all, and reads nothing while the connection lasts.  Between two
requests the worker goes on as far as the peer's answers let it; time passes only while a caller
waits.

`Link.handle` carries out a request and `Link.received` is what reaches the peer, so that
`Links.handleAll` says what comes of all that a client asks for.
-/

namespace OscRemote

/-- How a peer answers: it accepts connections, refuses them, leaves them without an answer, or is
not found under its name.  Datagrams reach it unless it is not found. -/
inductive Peer where
  | accepting
  | refusing
  | silent
  | unknown
deriving DecidableEq, Repr

/-- How many octets wait on a connection before a write has to wait as well. -/
def unreadLimit : Nat := 4194304

/-- The length of the longest datagram. -/
def maxDatagram : Nat := 65507

/-- What a worker learns of what it waits for. -/
inductive Answer where
  | success
  | failure
  | noneYet
deriving DecidableEq, Repr

/-- A transport and its peer: when the current attempt to connect is given up, in milliseconds, how
many octets wait on the current connection, the workers that had a connection, in order, and how
many of these connections the peer has reset. -/
structure Link where
  kind : TransportKind
  settings : TransportSettings
  peer : Peer
  system : System := {}
  now : Nat := 0
  deadline : Nat := 0
  unread : Nat := 0
  connections : List Nat := []
  resets : Nat := 0

namespace Link

variable (l : Link)

/-- The state that callers see. -/
def transport : Transport := l.system.transport

/-- The answer to an attempt to open. -/
def openAnswer : Answer :=
  match l.kind, l.peer with
  | _, .unknown => .failure
  | .datagram, _ => .success
  | .stream, .accepting => .success
  | .stream, .refusing => .failure
  | .stream, .silent => if l.deadline ≤ l.now then .failure else .noneYet

/-- Whether the peer has reset the connection of a worker. -/
def isReset (w : Nat) : Bool := (l.connections.take l.resets).contains w

/-- The answer to a write. -/
def writeAnswer (w : Nat) (message : Octets) : Answer :=
  match l.kind with
  | .datagram => if message.length ≤ maxDatagram then .success else .failure
  | .stream =>
    if l.isReset w then .failure
    else if l.unread + lengthPrefixSize + message.length ≤ unreadLimit then .success
    else .noneYet

/-- What the current worker can do next. -/
def nextAction? : Option Action := do
  let w ← l.transport.worker
  match l.system.need w with
  | .action a => some a
  | .connection =>
    match l.openAnswer with
    | .success => some (.opened w)
    | .failure => some (.openFailed w)
    | .noneYet => none
  | .write message =>
    match l.writeAnswer w message with
    | .success => some (.write w)
    | .failure => some (.writeFailed w)
    | .noneYet => none
  | .signal | .nothing => none

/-- The link after an action. -/
def act (a : Action) : Link :=
  let l : Link := { l with system := (l.system.perform? l.kind a).getD l.system }
  match a with
  | .opened w => { l with connections := l.connections ++ [w], unread := 0 }
  | .write w =>
    match l.system.workers[w]? with
    | some { task := .wrote message, .. } =>
      { l with unread := l.unread + lengthPrefixSize + message.length }
    | _ => l
  | _ => l

/-- Lets the current worker take at most `fuel` actions. -/
def settleWithin : (fuel : Nat) → Link → Link
  | 0, l => l
  | fuel + 1, l =>
    match l.nextAction? with
    | some a => settleWithin fuel (l.act a)
    | none => l

/-- Lets the current worker go on as far as it can: it opens, takes three actions for every message,
and finds the queue empty once for every time that it was woken. -/
def settle : Link :=
  l.settleWithin (3 * l.transport.pending + 4)

/-- Queues a message. -/
def send (message : Octets) : Link :=
  let l := if l.transport.isRunning then l
    else { l with deadline := l.now + l.settings.connectTimeout.toNat }
  (l.act (.send message)).settle

/-- Whether the current worker waits for its connection. -/
def isOpening : Bool :=
  (l.transport.worker.map l.system.need) == some .connection

/-- Waits until the transport is idle, for some milliseconds at most if there is a limit, and tells
whether it is. -/
def drain (limit : Option UInt64) : Link × Bool :=
  let wait : Nat :=
    if !l.transport.isBusy then 0
    else if l.isOpening then
      let left := l.deadline - l.now
      match limit with
      | some limit => min left limit.toNat
      | none => left
    else (limit.map UInt64.toNat).getD 0
  let l := { l with now := l.now + wait }.settle
  (l, !l.transport.isBusy)

/-- Closes the transport, and waits until its worker has ended. -/
def close : Link :=
  match l.transport.worker with
  | some w => (l.act .close).act (.stop w)
  | none => l.act .close

/-- The peer reads the oldest connection that it has not read yet, and resets it. -/
def reset : Link :=
  if l.resets < l.connections.length then { l with resets := l.resets + 1 } else l

/-- Carries out a request, if it is for this transport. -/
def handle : Request → Link
  | .send kind packet => if kind = l.kind then l.send packet else l
  | .drain kind limit => if kind = l.kind then (l.drain limit).1 else l
  | .close kind => if kind = l.kind then l.close else l

/-- What a worker has written. -/
def writtenBy (w : Nat) : List Octets :=
  ((l.system.workers[w]?).map (·.written)).getD []

/-- What reaches the peer, by connections or sockets, in order. -/
def received : List (List Octets) :=
  l.connections.map l.writtenBy

end Link

/-- The two transports of a client with their peers. -/
structure Links where
  stream : Link
  datagram : Link

namespace Links

/-- The links of a client with a configuration to a peer. -/
def ofConfig (c : Config) (peer : Peer) : Links where
  stream := { kind := .stream, settings := c.transport .stream, peer }
  datagram := { kind := .datagram, settings := c.transport .datagram, peer }

variable (ls : Links)

/-- Carries out a request. -/
def handle (r : Request) : Links where
  stream := ls.stream.handle r
  datagram := ls.datagram.handle r

/-- Carries out requests in order. -/
def handleAll (rs : List Request) : Links := rs.foldl handle ls

end Links

end OscRemote
