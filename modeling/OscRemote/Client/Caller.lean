import OscRemote.Client.Basic
import OscRemote.Frame
import OscRemote.Transport.System

/-!
# The thread that uses a client

A client asks for things in order, and the thread that uses it carries them out one after the other,
while the workers of both transports go on by themselves.  Sending does not take long; but the
thread stands still while it waits until a transport is idle, and, when it has closed one, until the
worker has ended.

A `Caller` is such a thread with both transports.  Each `Outlet` is a transport with what has
arrived at its peer, and `Caller.perform?` is one thing that happens: the thread goes on, gives up a
wait that is bounded, or a worker acts.
-/

namespace OscRemote

/-! ## What arrives -/

/-- What arrives at a peer of what a worker does: its connection, and each message that it has
written.  Of what is interrupted, or fails, some part may have arrived. -/
inductive Arrival where
  | connection (worker : Nat)
  | message (worker : Nat) (message : Octets)
  | interrupted (worker : Nat)
deriving DecidableEq, Repr

/-- What arrives by an action. -/
def System.arrival? (s : System) : Action → Option Arrival
  | .opened w => some (.connection w)
  | .openFailed w | .writeFailed w => some (.interrupted w)
  | .write w =>
    match s.workers[w]?.map Worker.task with
    | some (.writing message) => some (.message w message)
    | _ => none
  | .stop w =>
    match s.workers[w]?.map Worker.task with
    | some .opening | some (.writing _) => some (.interrupted w)
    | _ => none
  | _ => none

/-- Whether an action succeeds: connections are made, messages are written, and nobody gives up
waiting for a transport that is still busy. -/
def System.Succeeds (s : System) : Action → Prop
  | .openFailed _ | .writeFailed _ => False
  | .giveUp _ => s.transport.isBusy = false
  | _ => True

/-- A transport among its callers and workers, with what has arrived, in order. -/
structure Outlet where
  system : System := {}
  arrivals : List Arrival := []
deriving DecidableEq

namespace Outlet

variable (o : Outlet)

/-- The outlet after an action, where it is possible. -/
def act? (kind : TransportKind) (a : Action) : Option Outlet :=
  (o.system.perform? kind a).map fun system =>
    { system, arrivals := o.arrivals ++ (o.system.arrival? a).toList }

/-- The workers whose connections have arrived, in order. -/
def connections : List Nat :=
  o.arrivals.filterMap fun
    | .connection w => some w
    | _ => none

/-- The octets that have arrived on the connection of a worker. -/
def octetsOf (w : Nat) : Octets :=
  o.arrivals.flatMap fun
    | .message v message => if v = w then framed message else []
    | _ => []

/-- What has arrived on each connection, in the order of the connections. -/
def streams : List Octets := o.connections.map o.octetsOf

/-- The messages that have arrived, in order: where no frame is put around them, the datagrams. -/
def messages : List Octets :=
  o.arrivals.filterMap fun
    | .message _ message => some message
    | _ => none

end Outlet

/-! ## The thread -/

/-- Where a thread stands between two requests: it is free to take up the next one, waits until a
transport is idle, or waits until a worker has ended. -/
inductive Standing where
  | free
  | draining (kind : TransportKind) (wait : Nat)
  | joining (kind : TransportKind) (worker : Nat)
deriving DecidableEq, Repr

namespace Request

/-- The transport that a request is for. -/
def kind : Request → TransportKind
  | send kind _ | drain kind _ | close kind => kind

/-- The action with which a thread begins to carry out a request. -/
def action : Request → Action
  | send _ packet => .send packet
  | drain _ limit => .await limit.isSome
  | close _ => .close

/-- Where a thread stands after that action, which it takes on this system. -/
def standing (s : System) : Request → Standing
  | send _ _ => .free
  | drain kind _ => .draining kind s.waits.length
  | close kind =>
    match s.transport.worker with
    | some w => .joining kind w
    | none => .free

end Request

/-- A thread with both transports and the requests that it has still to carry out. -/
structure Caller where
  stream : Outlet := {}
  datagram : Outlet := {}
  requests : List Request
  standing : Standing := .free
deriving DecidableEq

/-- What happens: the thread goes on, or gives up waiting, or a worker acts.  Whoever owes the
waiting callers a notice is counted among the workers. -/
inductive Event where
  | proceed
  | giveUp
  | work (kind : TransportKind) (a : Action)
deriving DecidableEq

/-- Whether an action is not one that a thread takes for its requests. -/
def Action.isWork : Action → Bool
  | .send _ | .close | .await _ | .check _ | .giveUp _ => false
  | _ => true

namespace Caller

variable (c : Caller)

/-- One of the two transports. -/
def outlet : TransportKind → Outlet
  | .stream => c.stream
  | .datagram => c.datagram

/-- The caller with one of the two transports replaced. -/
def setOutlet : TransportKind → Outlet → Caller
  | .stream, stream => { c with stream }
  | .datagram, datagram => { c with datagram }

/-- The caller after an action on one of the two transports, where it is possible. -/
def act? (kind : TransportKind) (a : Action) : Option Caller :=
  ((c.outlet kind).act? kind a).map (c.setOutlet kind)

/-- The caller after it has begun to carry out a request. -/
def begin? (r : Request) : Option Caller :=
  (c.act? r.kind r.action).map fun c' =>
    { c' with standing := r.standing (c.outlet r.kind).system }

/-- The caller after the thread went on, where it can. -/
def proceed? : Option Caller :=
  match c.standing with
  | .free =>
    match c.requests with
    | r :: requests => { c with requests }.begin? r
    | [] => none
  | .draining kind i =>
    match (c.outlet kind).system.waits[i]?.map Wait.phase with
    | some (.returned _) => some { c with standing := .free }
    | _ => c.act? kind (.check i)
  | .joining kind w =>
    if (c.outlet kind).system.workers[w]?.map Worker.task = some .ended then
      some { c with standing := .free }
    else none

/-- What an event makes of the caller, where it is possible. -/
def perform? : Event → Option Caller
  | .proceed => c.proceed?
  | .giveUp =>
    match c.standing with
    | .draining kind i => c.act? kind (.giveUp i)
    | _ => none
  | .work kind a => if a.isWork then c.act? kind a else none

/-- Whether the thread has carried out everything. -/
def IsDone : Prop := c.requests = [] ∧ c.standing = .free

/-- Whether nothing fails by an event: no connection, no write, and no wait. -/
def Succeeds : Event → Prop
  | .proceed => True
  | .giveUp => ∀ kind i, c.standing = .draining kind i → (c.outlet kind).system.Succeeds (.giveUp i)
  | .work kind a => (c.outlet kind).system.Succeeds a

/-- A run of events that are allowed: in order, they lead from one caller to another. -/
inductive Run (allowed : Caller → Event → Prop) : Caller → List Event → Caller → Prop
  | nil (c : Caller) : Run allowed c [] c
  | cons {c c' c'' : Caller} {e : Event} {es : List Event} :
      allowed c e → c.perform? e = some c' → Run allowed c' es c'' → Run allowed c (e :: es) c''

end Caller

/-- What a client asks for when it goes away: it is closed, and then both transports go away. -/
def Client.departure (c : Client) : List Request :=
  c.close.2 ++ (c.config.transport .stream).leaveRequests .stream ++
    (c.config.transport .datagram).leaveRequests .datagram

/-- All that a client asks for from these operations on until it is gone: it is closed, and then
both transports go away. -/
def Client.lifetime (c : Client) (ops : List Operation) : List Request :=
  (c.performAll (ops ++ [.close])).2 ++ (c.config.transport .stream).leaveRequests .stream ++
    (c.config.transport .datagram).leaveRequests .datagram

end OscRemote
