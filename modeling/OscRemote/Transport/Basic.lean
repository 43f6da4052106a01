import OscRemote.Config.Basic
import OscRemote.Octets

/-!
# Transports

A transport keeps messages in a queue for a worker, which opens a connection or a socket and writes
them one at a time.  The first message starts the worker.  A message stays at the head of the queue
while it is written and leaves it afterwards; when the worker fails, or the transport is closed, the
whole queue is discarded and the next message starts a new worker.

Here are the steps that callers and workers take on this state, each of them while nobody else does.
Workers are numbered as they are started, and a worker that is no longer the one recorded, the
*current* one, must leave the state alone.
-/

namespace OscRemote

/-- The phase of a transport's connection. -/
inductive ConnectionState where
  | disconnected
  | connecting
  | connected
  | closed
deriving DecidableEq, Repr

/-- The state of a transport that callers and workers share. -/
structure Transport where
  queue : List Octets := []
  isWriting : Bool := false
  isConnecting : Bool := false
  state : ConnectionState := .disconnected
  worker : Option Nat := none
  started : Nat := 0
deriving DecidableEq

namespace Transport

variable (t : Transport)

/-- Whether there is anything to wait for. -/
def isBusy : Bool := !t.queue.isEmpty || t.isWriting || t.isConnecting

/-- The number of messages that are not written yet. -/
def pending : Nat := t.queue.length

/-- Whether a worker is running. -/
def isRunning : Bool := t.worker.isSome

/-- Whether this worker is the current one. -/
def isCurrent (w : Nat) : Bool := t.worker == some w

/-- The state after a worker was started.  Only a stream shows that it is connecting. -/
def start : TransportKind → Transport
  | .stream =>
    { t with
      worker := some t.started
      started := t.started + 1
      state := .connecting
      isConnecting := true }
  | .datagram => { t with worker := some t.started, started := t.started + 1 }

/-- Queues a message, and starts a worker if none is running. -/
def send (kind : TransportKind) (message : Octets) : Transport :=
  let t := if t.isRunning then t else t.start kind
  { t with queue := t.queue ++ [message] }

/-- Discards the queue and forgets the worker. -/
def discard (state : ConnectionState) : Transport :=
  { t with queue := [], isWriting := false, isConnecting := false, state, worker := none }

/-- Closes, as far as the shared state goes. -/
def close : Transport := t.discard .closed

/-- The state after the current worker has opened its connection or socket. -/
def connect : TransportKind → Transport
  | .stream => { t with state := .connected, isConnecting := false }
  | .datagram => { t with state := .connected }

/-- The state after the current worker has taken up the message at the head of the queue. -/
def beginWrite : Transport := { t with isWriting := true }

/-- The state after the current worker has written the message at the head of the queue. -/
def endWrite : Transport :=
  let queue := t.queue.tail
  { t with queue, isWriting := t.isWriting && !queue.isEmpty }

end Transport

end OscRemote
