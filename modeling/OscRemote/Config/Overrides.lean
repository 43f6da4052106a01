import OscRemote.Config.Basic
import OscRemote.Config.Error
import OscRemote.Number.Integer
import OscRemote.Text.Lowercase

/-!
# Configuration by the environment

Variables of the environment override single fields of a configuration.  A port or a protocol that
cannot be read is passed over; any text for the unload variable that does not say yes says no.
-/

namespace OscRemote

/-- The values of variables by name. -/
abbrev Environment := String → Option String

/-- The transport that a word names, in letters of either case. -/
def TransportKind.read (s : String) : Except ConfigError TransportKind :=
  match Text.lowercase s with
  | "tcp" | "stream" => pure .stream
  | "udp" | "datagram" => pure .datagram
  | word => throw (.validation (.unknownProtocol word))

/-- A port in decimal. -/
def port? (s : String) : Option UInt16 :=
  (Number.unsigned? 16 10 s.toList).map UInt16.ofNat

/-- Whether a text says yes. -/
def saysYes (s : String) : Bool :=
  s == "1" || Text.lowercase s == "true"

/-- The variables that concern a configuration. -/
def Environment.names : List String :=
  ["AMC_CONFIG", "AMC_HOST", "AMC_BASE_ADDRESS", "AMC_STREAM_PORT", "AMC_DATAGRAM_PORT",
    "AMC_PROTOCOL", "AMC_UNLOAD_ON_CLOSE"]

/-- A configuration with the overrides of an environment. -/
def Config.override (c : Config) (env : Environment) : Config :=
  { c with
    host := (env "AMC_HOST").getD c.host
    baseAddress := (env "AMC_BASE_ADDRESS").getD c.baseAddress
    streamPort := ((env "AMC_STREAM_PORT").bind port?).getD c.streamPort
    datagramPort := ((env "AMC_DATAGRAM_PORT").bind port?).getD c.datagramPort
    coreTransport :=
      ((env "AMC_PROTOCOL").bind fun s => (TransportKind.read s).toOption).getD c.coreTransport
    onClose.unload := ((env "AMC_UNLOAD_ON_CLOSE").map saysYes).getD c.onClose.unload }

end OscRemote
