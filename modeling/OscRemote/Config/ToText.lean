import OscRemote.Config.Basic
import OscRemote.Yaml.Scalar.Write

/-!
# Configurations as text

A configuration is written with a line for every field, those of how it closes set in by two blanks.
-/

namespace OscRemote

/-- The word for a transport. -/
def TransportKind.word : TransportKind → String
  | .stream => "stream"
  | .datagram => "datagram"

/-- The word for a policy. -/
def ClosePolicy.word : ClosePolicy → String
  | .drainFirst => "drain_first"
  | .closeImmediately => "close_immediately"

/-- A field and its value, which ends the line. -/
def fieldLine (name : String) (value : List Char) : List Char :=
  name.toList ++ ": ".toList ++ value

/-- A field whose value is one word or number. -/
def wordLine (name value : String) : List Char :=
  fieldLine name (value.toList ++ ['\n'])

/-- The lines of how a client closes. -/
def CloseSettings.lines (s : CloseSettings) : List (List Char) :=
  [wordLine "unload" (if s.unload then "true" else "false"),
    wordLine "policy" s.policy.word,
    wordLine "drain_timeout_ms" (toString s.drainTimeout.toNat)]

/-- A configuration as text. -/
def Config.toText (c : Config) : String :=
  String.ofList <| List.flatten <|
    [fieldLine "base_address" (Yaml.writeScalarLine 2 c.baseAddress.toList),
      fieldLine "host" (Yaml.writeScalarLine 2 c.host.toList),
      wordLine "stream_port" (toString c.streamPort.toNat),
      wordLine "datagram_port" (toString c.datagramPort.toNat),
      wordLine "core_transport" c.coreTransport.word,
      wordLine "connect_timeout_ms" (toString c.connectTimeout.toNat),
      "on_close:\n".toList] ++
    c.onClose.lines.map (' ' :: ' ' :: ·)

end OscRemote
