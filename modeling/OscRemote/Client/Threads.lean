import OscRemote.Client.Basic

/-!
# A client among threads

Several threads may use a client, each of them with a call of its own at any time.  Whoever touches
the open bundle, or submits a message, keeps all others from the bundle until what it asks for is in
the queue of a transport; so this is done at one moment, a `Deed`.  Most calls are a single deed.
Closing is a row of them, and other calls may do something in between.

A `SharedClient` holds every call that was ever begun, with the deeds that are left of it, and what
was submitted by which call.  That a client was closed is noted when the call begins, before any of
its deeds; so of several calls that close a client only the one that begins first unloads the
project.
-/

namespace OscRemote

/-- What a call does at one moment. -/
inductive Deed where
  | send (op : Operation)
  | startBundle
  | endBundle
  | ask (r : Request)
deriving DecidableEq

namespace Operation

/-- The packet of an operation's message and its transport, if it has a message with an encoding. -/
def packet? (c : Config) (op : Operation) : Option (TransportKind × Octets) :=
  (op.message? c).bind fun (kind, m) => m.encode.toOption.map (kind, ·)

/-- The deeds of a call.  Closing unloads the project if the configuration asks for it and the
client was not closed before. -/
def deeds (c : Config) (closed : Bool) : Operation → List Deed
  | startBundle => [.startBundle]
  | endBundle => [.endBundle]
  | drain => [.ask (.drain .stream none), .ask (.drain .datagram none)]
  | close =>
    .endBundle :: (if !closed && c.onClose.unload then [.send unload] else []) ++
      (Client.closeRequests c).map .ask
  | op => [.send op]

end Operation

/-- A call of an operation, with the deeds that are left of it. -/
structure Call where
  operation : Operation
  deeds : List Deed
deriving DecidableEq

/-- A message that a call submitted for a transport. -/
structure Submission where
  call : Nat
  kind : TransportKind
  message : Octets
deriving DecidableEq

/-- A client among threads, with every call, what they submitted and what was asked of the
transports, in order. -/
structure SharedClient where
  client : Client
  calls : List Call := []
  submissions : List Submission := []
  requests : List Request := []
deriving DecidableEq

/-- A thread begins a call, or goes on with it. -/
inductive Move where
  | begin (op : Operation)
  | goOn (call : Nat)
deriving DecidableEq

namespace SharedClient

variable (s : SharedClient)

/-- The shared client with another client, which asks for something. -/
def ask (outcome : Client × List Request) : SharedClient :=
  { s with client := outcome.1, requests := s.requests ++ outcome.2 }

/-- What a deed of a call makes of the shared client. -/
def act (call : Nat) : Deed → SharedClient
  | .send op =>
    match op.packet? s.client.config with
    | some (kind, message) =>
      { s.ask (s.client.submit kind message) with
        submissions := s.submissions ++ [{ call, kind, message }] }
    | none => s
  | .startBundle =>
    let (client, requests) := s.client.endBundle
    s.ask ({ client with bundle := some {} }, requests)
  | .endBundle => s.ask s.client.endBundle
  | .ask r => s.ask (s.client, [r])

/-- The shared client after a call was begun. -/
def begin (op : Operation) : SharedClient :=
  { s with
    client := { s.client with closed := s.client.closed || op == .close }
    calls := s.calls ++
      [{ operation := op, deeds := op.deeds s.client.config s.client.closed }] }

/-- What a move makes of the shared client, where it is possible. -/
def perform? : Move → Option SharedClient
  | .begin op => some (s.begin op)
  | .goOn i =>
    match s.calls[i]? with
    | some { operation, deeds := deed :: deeds } =>
      some ({ s with calls := s.calls.set i { operation, deeds } }.act i deed)
    | _ => none

/-- A run: the moves, in order, lead from one shared client to another. -/
inductive Run : SharedClient → List Move → SharedClient → Prop
  | nil (s : SharedClient) : Run s [] s
  | cons {s s' s'' : SharedClient} {m : Move} {ms : List Move} :
      s.perform? m = some s' → Run s' ms s'' → Run s (m :: ms) s''

/-- What a call has submitted, in order. -/
def submitted (call : Nat) : List (TransportKind × Octets) :=
  (s.submissions.filter (·.call = call)).map fun x => (x.kind, x.message)

end SharedClient

end OscRemote
