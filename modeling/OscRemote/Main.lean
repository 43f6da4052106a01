import OscRemote.CommandLine.Run
import OscRemote.Transport.System
import Std.Async.DNS
import Std.Async.TCP
import Std.Async.Timer
import Std.Async.UDP

/-!
# The program on a system

The outermost layer: it reads the environment, the file and the lines, prints, and carries requests
out on sockets.  A worker runs as a task of its own while it has anything to do; every step that it
or a caller takes on the shared state is an action of `System.perform?`, taken as one access to a
reference.
-/

open OscRemote
open Std.Async Std.Net

/-- A connection, or a socket with its destination. -/
inductive Socket where
  | stream (s : TCP.Socket.Client)
  | datagram (s : UDP.Socket)

/-- A transport on a system, with the socket of its current worker. -/
structure Wire where
  kind : TransportKind
  settings : TransportSettings
  system : IO.Ref System
  socket : IO.Ref (Option Socket)

/-- An address with a port. -/
def addressWith (port : UInt16) : IPAddr → SocketAddress
  | .v4 a => .v4 ⟨a, port⟩
  | .v6 a => .v6 ⟨a, port⟩

/-- Connects to the first address that can be reached within a time. -/
def connectAny (timeout : Nat) (port : UInt16) : List IPAddr → IO (Option Socket)
  | [] => pure none
  | address :: rest => do
    let s ← TCP.Socket.Client.mk
    let connecting : Async Bool := do
      s.connect (addressWith port address)
      pure true
    let waiting : Async Bool := do
      sleep (.ofNat timeout)
      pure false
    let connected ← try (Async.race connecting waiting).block catch _ => pure false
    if connected then
      s.noDelay
      pure (some (.stream s))
    else connectAny timeout port rest

namespace Wire

/-- The transport of a client with these settings. -/
def ofSettings (kind : TransportKind) (settings : TransportSettings) : IO Wire := do
  pure { kind, settings, system := ← IO.mkRef {}, socket := ← IO.mkRef none }

variable (wire : Wire)

/-- Takes an action, if it is possible. -/
def act (a : Action) : IO Unit :=
  wire.system.modify fun s => (s.perform? wire.kind a).getD s

/-- Resolves the host and opens a connection or a socket. -/
def connect : IO (Option Socket) := do
  let port := wire.settings.port
  let addresses ← (DNS.getAddrInfo wire.settings.host (toString port.toNat)).block
  match wire.kind, addresses.toList with
  | .stream, addresses => connectAny wire.settings.connectTimeout.toNat port addresses
  | .datagram, [] => pure none
  | .datagram, address :: _ => do
    let s ← UDP.Socket.mk
    s.connect (addressWith port address)
    pure (some (.datagram s))

/-- Writes a message. -/
def write (message : Octets) : IO Unit := do
  match ← wire.socket.get with
  | some (.stream s) => (s.send ⟨(framed message).toArray⟩).block
  | some (.datagram s) => (s.send ⟨message.toArray⟩).block
  | none => throw (IO.userError "no socket")

/-- Runs a worker until it has to wait for a signal or has ended. -/
partial def work (w : Nat) : IO Unit := do
  match (← wire.system.get).need w with
  | .action a =>
    wire.act a
    work w
  | .connection =>
    match ← (try wire.connect catch _ => pure none) with
    | some socket =>
      if (← wire.system.get).transport.isCurrent w then wire.socket.set (some socket)
      wire.act (.opened w)
    | none => wire.act (.openFailed w)
    work w
  | .write message =>
    let written ← try (do wire.write message; pure true) catch _ => pure false
    wire.act (if written then .write w else .writeFailed w)
    work w
  | .signal | .nothing => pure ()

/-- Queues a message, and sets a worker to work that was started for it or waited for it. -/
def send (message : Octets) : IO Unit := do
  let resting ← wire.system.modifyGet fun s =>
    let resting := match s.transport.worker with
      | some w => s.need w == Need.signal
      | none => true
    (resting, s.send wire.kind message)
  if resting then
    if let some w := (← wire.system.get).transport.worker then
      let _ ← IO.asTask (wire.work w) .dedicated

/-- Waits until the transport is idle, until a time at most if there is one. -/
partial def drain (deadline? : Option Nat) : IO Unit := do
  if (← wire.system.get).transport.isBusy then
    let isOver ← match deadline? with
      | some deadline => do pure (decide (deadline ≤ (← IO.monoMsNow)))
      | none => pure false
    if !isOver then
      IO.sleep 2
      drain deadline?

/-- Closes the transport and its connection. -/
def close : IO Unit := do
  wire.system.modify fun s =>
    let closed := s.close
    match s.transport.worker with
    | some w => (closed.perform? wire.kind (.stop w)).getD closed
    | none => closed
  match ← wire.socket.swap none with
  | some (.stream s) => try s.shutdown.block catch _ => pure ()
  | _ => pure ()

/-- Carries out a request for this transport. -/
def handle : Request → IO Unit
  | .send _ packet => wire.send packet
  | .drain _ limit? => do
    let now ← IO.monoMsNow
    wire.drain (limit?.map fun limit => now + limit.toNat)
  | .close _ => wire.close

end Wire

/-- Carries out requests in order. -/
def handleAll (wires : TransportKind → Wire) (requests : List Request) : IO Unit :=
  requests.forM fun request =>
    match request with
    | .send kind _ | .drain kind _ | .close kind => (wires kind).handle request

/-- The transports of a client. -/
def wiresFor (config : Config) : IO (TransportKind → Wire) := do
  let stream ← Wire.ofSettings .stream (config.transport .stream)
  let datagram ← Wire.ofSettings .datagram (config.transport .datagram)
  pure fun
    | .stream => stream
    | .datagram => datagram

/-- The environment, as far as it concerns the program. -/
def readEnvironment : IO Environment := do
  let pairs ← Environment.names.mapM fun name => do pure (name, ← IO.getEnv name)
  pure fun name => (pairs.lookup name).join

/-- The contents of a file, or why it cannot be read. -/
def readFile (path : String) : IO (Except FileError Octets) := do
  try
    let content ← IO.FS.readBinFile path
    pure (.ok content.toList)
  catch
    | .noFileOrDirectory .. => pure (.error .notFound)
    | .inappropriateType _ code _ =>
      pure (.error (if code = 20 then .notDirectory else .isDirectory))
    | e => pure (.error (.other (toString e)))

/-- Carries out lines until the session ends, and gives the client that is left. -/
partial def converse (wires : TransportKind → Wire) (input output : IO.FS.Stream) (c : Client) :
    IO Client := do
  if ← input.isTty then
    output.putStr "-> "
    output.flush
  let line ← input.getLine
  if line.isEmpty then
    output.putStr Shell.endOfInput
    pure c
  else
    let (turn, text, goesOn) := Shell.respond c (Shell.typed line)
    handleAll wires turn.requests
    output.putStr text
    output.flush
    if goesOn then converse wires input output turn.client else pure turn.client

/-- Ends the program. -/
def finish (e : CommandLine.Exit) : IO UInt32 := do
  (← IO.getStdout).putStr e.output
  (← IO.getStderr).putStr e.errors
  pure (UInt32.ofNat e.status)

/-- Starts what an invocation asks for and carries it out. -/
def carryOut (env : Environment) (i : CommandLine.Invocation) : IO UInt32 := do
  let content ← match Config.source? i.file env with
    | some path => readFile path
    | none => pure (.error .notFound)
  let files : Files := fun _ => content
  match CommandLine.start files env i with
  | .exit e =>
    if let .ok config := i.config files env then
      handleAll (← wiresFor config) e.requests
    finish e
  | .shell c =>
    let wires ← wiresFor c.config
    let output ← IO.getStdout
    output.putStr (Shell.greeting c.config)
    output.flush
    let c ← converse wires (← IO.getStdin) output c
    handleAll wires c.close.2
    output.putStr Shell.farewell
    pure 0

def main (args : List String) : IO UInt32 := do
  let env ← readEnvironment
  let reading := CommandLine.read env args
  match reading with
  | .invocation i => carryOut env i
  | reading => finish ((reading.exit?).getD {})
