/-!
# Configuration

What a client is told about its project and its peer: `Config`, with the values that hold where
nothing is said, and `TransportSettings`, what of it concerns one of the two transports.
-/

namespace OscRemote

/-- The two ways in which messages travel: on a connection, each in a frame, or each in a datagram
of its own. -/
inductive TransportKind where
  | stream
  | datagram
deriving DecidableEq, Repr

/-- What becomes of queued messages when a transport goes away: they are waited for, up to a limit,
or they are discarded. -/
inductive ClosePolicy where
  | drainFirst
  | closeImmediately
deriving DecidableEq, Repr

/-- How a client closes: whether it unloads its project, what becomes of queued messages, and for
how many milliseconds they are waited for. -/
structure CloseSettings where
  unload : Bool := false
  policy : ClosePolicy := .drainFirst
  drainTimeout : UInt64 := 5000
deriving DecidableEq, Repr

/-- The port of streams, where none is given. -/
def defaultStreamPort : UInt16 := 15002

/-- The port of datagrams, where none is given. -/
def defaultDatagramPort : UInt16 := 15003

/-- The configuration of a client.  Built-in messages travel on the core transport; times are in
milliseconds. -/
structure Config where
  baseAddress : String := ""
  host : String := "127.0.0.1"
  streamPort : UInt16 := defaultStreamPort
  datagramPort : UInt16 := defaultDatagramPort
  coreTransport : TransportKind := .stream
  connectTimeout : UInt64 := 5000
  onClose : CloseSettings := {}
deriving DecidableEq, Repr

/-- What one transport is told: its destination, the limit on one attempt to connect, and how it
goes away. -/
structure TransportSettings where
  host : String
  port : UInt16
  connectTimeout : UInt64 := 5000
  closePolicy : ClosePolicy := .drainFirst
  drainTimeout : UInt64 := 5000
deriving DecidableEq, Repr

namespace Config

/-- The port for a transport. -/
def port (c : Config) : TransportKind → UInt16
  | .stream => c.streamPort
  | .datagram => c.datagramPort

/-- The settings for a transport. -/
def transport (c : Config) (kind : TransportKind) : TransportSettings where
  host := c.host
  port := c.port kind
  connectTimeout := c.connectTimeout
  closePolicy := c.onClose.policy
  drainTimeout := c.onClose.drainTimeout

end Config

end OscRemote
