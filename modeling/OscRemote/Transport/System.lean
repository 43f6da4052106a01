import OscRemote.Transport.Basic
import OscRemote.Transport.Signal

/-!
# A transport among its callers and workers

Callers send, close and wait until the transport is idle, while workers open, write and wait for
more, all of them in any order.  A `System` holds the shared state, every worker that was ever
started and every wait that was ever begun; `perform?` is one action of one of them, where it is
possible, and `Path` and `Reachable` say what runs lead to.

A worker keeps the record of its session: the messages accepted since it was started, those it has
taken up, those it has written, and those it has taken off the queue.
-/

namespace OscRemote

/-- What a worker is at: it waits for its connection, looks at the queue, waits for more, writes a
message, or has written one that is still in the queue. -/
inductive Task where
  | opening
  | ready
  | idle
  | writing (message : Octets)
  | wrote (message : Octets)
  | ended
deriving DecidableEq

/-- Whether a worker waits for something that closing the transport interrupts. -/
def Task.isWaiting : Task → Bool
  | .opening | .idle | .writing _ => true
  | _ => false

/-- A worker, with the signals for more messages and for its end, and the record of its session. -/
structure Worker where
  task : Task := .opening
  wake : Signal := {}
  stop : Signal := {}
  accepted : List Octets := []
  fetched : List Octets := []
  written : List Octets := []
  popped : List Octets := []
deriving DecidableEq

/-- Where a caller stands that waits until the transport is idle. -/
inductive WaitPhase where
  | entering
  | parked
  | woken
  | returned (drained : Bool)
deriving DecidableEq, Repr

/-- A wait until the transport is idle; one that is bounded may give up. -/
structure Wait where
  isBounded : Bool
  phase : WaitPhase := .entering
deriving DecidableEq, Repr

/-- A transport among its callers and workers.  Whoever changes the state such that it may have
become idle owes the waiting callers a notice. -/
structure System where
  transport : Transport := {}
  workers : List Worker := []
  waits : List Wait := []
  notices : Nat := 0
deriving DecidableEq

/-- An action of a caller, or of the worker with this number. -/
inductive Action where
  | send (message : Octets)
  | close
  | await (isBounded : Bool)
  | check (wait : Nat)
  | giveUp (wait : Nat)
  | notice
  | park (worker : Nat)
  | wake (worker : Nat)
  | stop (worker : Nat)
  | opened (worker : Nat)
  | openFailed (worker : Nat)
  | fetch (worker : Nat)
  | write (worker : Nat)
  | writeFailed (worker : Nat)
  | complete (worker : Nat)
deriving DecidableEq

namespace Worker

variable (k : Worker)

/-- Parks at the signals that the task waits for. -/
def park? : Option Worker :=
  match k.task with
  | .idle => do
    let wake ← k.wake.park?
    let stop ← k.stop.park?
    pure { k with wake, stop }
  | .opening | .writing _ => do
    let stop ← k.stop.park?
    pure { k with stop }
  | _ => none

/-- Goes on because there may be more messages. -/
def resume? : Option Worker :=
  match k.task with
  | .idle => do
    let wake ← k.wake.receive?
    pure { k with task := .ready, wake, stop := k.stop.leave }
  | _ => none

/-- Ends because the transport was closed. -/
def stop? : Option Worker :=
  if k.task.isWaiting then do
    let stop ← k.stop.receive?
    pure { k with task := .ended, wake := k.wake.leave, stop }
  else none

/-- Turns to another task, away from the signal for its end. -/
def turnTo (task : Task) : Worker :=
  { k with task, stop := k.stop.leave }

end Worker

namespace System

variable (s : System)

/-- The system with one worker replaced. -/
def setWorker (w : Nat) (k : Worker) : System :=
  { s with workers := s.workers.set w k }

/-- The system with one worker changed. -/
def modifyWorker (w : Nat) (f : Worker → Worker) : System :=
  { s with workers := s.workers.modify w f }

/-- The system with one wait moved to another phase. -/
def setWait (i : Nat) (phase : WaitPhase) : System :=
  { s with waits := s.waits.modify i ({ · with phase }) }

/-- The system with another shared state and a notice owed for it. -/
def update (t : Transport) : System :=
  { s with transport := t, notices := s.notices + 1 }

/-- Queues a message: a running worker is woken for it, else one is started. -/
def send (kind : TransportKind) (message : Octets) : System :=
  let after := { s with transport := s.transport.send kind message }
  match s.transport.worker with
  | some w =>
    after.modifyWorker w fun k =>
      { k with wake := k.wake.notify, accepted := k.accepted ++ [message] }
  | none => { after with workers := s.workers ++ [{ accepted := [message] }] }

/-- Closes: the worker is told to end. -/
def close : System :=
  let after := s.update s.transport.close
  match s.transport.worker with
  | some w => after.modifyWorker w fun k => { k with stop := k.stop.notify }
  | none => after

/-- The waiting callers are woken. -/
def notice : System :=
  { s with
    notices := s.notices - 1
    waits := s.waits.map fun d => if d.phase = .parked then { d with phase := .woken } else d }

/-- A worker reports that it is done with what it waited for: it goes on if it is still the current
one, and then changes the shared state. -/
def report (w : Nat) (k : Worker) (next : Task) (change : Transport → Transport) : System :=
  if s.transport.isCurrent w then
    (s.update (change s.transport)).setWorker w (k.turnTo next)
  else s.setWorker w (k.turnTo .ended)

/-- A worker looks at the queue. -/
def fetch (w : Nat) (k : Worker) : System :=
  if s.transport.isCurrent w then
    match s.transport.queue with
    | message :: _ =>
      { s with transport := s.transport.beginWrite }.setWorker w
        { k with task := .writing message, fetched := k.fetched ++ [message] }
    | [] => s.setWorker w { k with task := .idle }
  else s.setWorker w { k with task := .ended }

/-- A worker that has written a message takes the one at the head off the queue. -/
def complete (w : Nat) (k : Worker) : System :=
  if s.transport.isCurrent w then
    let t := s.transport.endWrite
    let after := if t.queue.isEmpty then s.update t else { s with transport := t }
    after.setWorker w { k with task := .ready, popped := k.popped ++ s.transport.queue.take 1 }
  else s.setWorker w { k with task := .ended }

/-- What an action makes of the system, where it is possible. -/
def perform? (kind : TransportKind) : Action → Option System
  | .send message => some (s.send kind message)
  | .close => some s.close
  | .await isBounded => some { s with waits := s.waits ++ [{ isBounded }] }
  | .check i => do
    let d ← s.waits[i]?
    if d.phase = .entering ∨ d.phase = .woken then
      some (s.setWait i (if s.transport.isBusy then .parked else .returned true))
    else none
  | .giveUp i => do
    let d ← s.waits[i]?
    if d.isBounded ∧ d.phase = .parked then
      some (s.setWait i (.returned !s.transport.isBusy))
    else none
  | .notice => if s.notices = 0 then none else some s.notice
  | .park w => do
    let k ← s.workers[w]?
    let k ← k.park?
    some (s.setWorker w k)
  | .wake w => do
    let k ← s.workers[w]?
    let k ← k.resume?
    some (s.setWorker w k)
  | .stop w => do
    let k ← s.workers[w]?
    let k ← k.stop?
    some (s.setWorker w k)
  | .opened w => do
    let k ← s.workers[w]?
    if k.task = .opening then some (s.report w k .ready (·.connect kind)) else none
  | .openFailed w => do
    let k ← s.workers[w]?
    if k.task = .opening then some (s.report w k .ended (·.discard .disconnected)) else none
  | .fetch w => do
    let k ← s.workers[w]?
    if k.task = .ready then some (s.fetch w k) else none
  | .write w => do
    let k ← s.workers[w]?
    match k.task with
    | .writing message =>
      some (s.setWorker w { k.turnTo (.wrote message) with written := k.written ++ [message] })
    | _ => none
  | .writeFailed w => do
    let k ← s.workers[w]?
    match k.task with
    | .writing _ => some (s.report w k .ended (·.discard .closed))
    | _ => none
  | .complete w => do
    let k ← s.workers[w]?
    match k.task with
    | .wrote _ => some (s.complete w k)
    | _ => none

end System

/-- What a worker needs in order to go on: to take an action that is always possible, to know
whether it has a connection or whether a message is written, or a signal; a worker that has ended
needs nothing. -/
inductive Need where
  | action (a : Action)
  | connection
  | write (message : Octets)
  | signal
  | nothing
deriving DecidableEq

/-- What a worker needs. -/
def System.need (s : System) (w : Nat) : Need :=
  match s.workers[w]? with
  | none => .nothing
  | some k =>
    match k.task with
    | .opening => .connection
    | .ready => .action (.fetch w)
    | .idle => if k.wake.isReady then .action (.wake w) else .signal
    | .writing message => .write message
    | .wrote _ => .action (.complete w)
    | .ended => .nothing

/-- A run: the actions, in order, lead from one system to another. -/
inductive System.Path (kind : TransportKind) : System → List Action → System → Prop
  | nil (s : System) : Path kind s [] s
  | cons {s s' s'' : System} {a : Action} {as : List Action} :
      s.perform? kind a = some s' → Path kind s' as s'' → Path kind s (a :: as) s''

/-- The systems that runs lead to from a transport of which nothing was asked yet. -/
def System.Reachable (kind : TransportKind) (s : System) : Prop :=
  ∃ as, System.Path kind {} as s

end OscRemote
