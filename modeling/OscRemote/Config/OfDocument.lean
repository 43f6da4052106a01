import OscRemote.Config.Basic
import OscRemote.Config.Error
import OscRemote.Number.Integer
import OscRemote.Yaml.Node.OfTokens
import OscRemote.Yaml.Scalar.Kind

/-!
# Configurations from documents

A configuration is read from a mapping from the names of fields to values.  A field that is not
there keeps its default, a name that is none is passed over with its value, and no field may be
there twice.  Texts are taken from scalars of any style; a number or a truth value must be plain.
-/

namespace OscRemote

open Yaml (Node Document)

-- Powers are those that numbers come with, whatever else is in scope.
attribute [local instance (2000)] instPowNat

namespace Misreading

/-- Turns the absence of a value into a cause. -/
def require {α : Type} (cause : Misreading) : Option α → Except Misreading α
  | some value => pure value
  | none => throw cause

end Misreading

namespace Yaml.Document

variable (d : Document)

/-- The text of a scalar. -/
def text? (n : Node) : Option String :=
  match d.resolve n with
  | .scalar _ _ text => some (String.ofList text)
  | _ => none

/-- The characters of a scalar that may stand for something else than a text: it is plain, or it is
a literal block of the type `type`. -/
def plain? (type : String) (n : Node) : Option (List Char) :=
  match d.resolve n with
  | .scalar _ .plain text => some text
  | .scalar (some name) .literal text => if name = octetsOf type then some text else none
  | _ => none

/-- A whole number below `2 ^ width`. -/
def number? (width : Nat) (n : Node) : Option Nat :=
  ((d.plain? "tag:yaml.org,2002:int" n).bind (unsigned? 64)).filter (· < 2 ^ width)

/-- A truth value. -/
def flag? (n : Node) : Option Bool :=
  (d.plain? "tag:yaml.org,2002:bool" n).bind Yaml.flag?

/-- The name behind the mark of a type that the document itself defines; a mark alone is its own
name. -/
def ownType? (n : Node) : Option String :=
  let type? := match d.resolve n with
    | .scalar type _ _ | .sequence type _ | .mapping type _ => type
    | .alias _ => none
  match type? with
  | some (mark :: name) =>
    if mark.toNat = '!'.toNat then textOf? (if name.isEmpty then [mark] else name) else none
  | _ => none

/-- The word that a node gives: the name of its own type, if the value is then missing, or its
text. -/
def word? (n : Node) : Option String :=
  match d.ownType? n with
  | some type =>
    match d.resolve n with
    | .scalar _ .plain text => if text.isEmpty || isNull text then some type else none
    | _ => none
  | none => d.text? n

/-- The entries of a mapping, of which there are none in a missing node. -/
def entries? (n : Node) : Option (List (Node × Node)) :=
  match d.resolve n with
  | .mapping _ entries => some entries
  | .scalar _ .plain [] => some []
  | _ => none

/-- The values of the fields of these names, each of which is there at most once. -/
def fields (names : List String) (n : Node) : Except Misreading (List (String × Node)) := do
  let entries ← Misreading.require .notMapping (d.entries? n)
  entries.foldlM (fun found (key, value) => do
    let name ← Misreading.require .keyNotText (d.text? key)
    if !names.contains name then pure found
    else if (found.lookup name).isSome then throw (.repeated name)
    else pure ((name, value) :: found)) []

end Yaml.Document

/-- The value of a field, if it is there. -/
def optionalField {α : Type} (fields : List (String × Node)) (name : String) (default : α)
    (read : Node → Except Misreading α) : Except Misreading α :=
  match fields.lookup name with
  | some value => read value
  | none => pure default

/-- The transport that a word of a document names. -/
def TransportKind.ofWord? : String → Option TransportKind
  | "stream" | "tcp" => some .stream
  | "datagram" | "udp" => some .datagram
  | _ => none

/-- The policy that a word of a document names. -/
def ClosePolicy.ofWord? : String → Option ClosePolicy
  | "drain_first" => some .drainFirst
  | "close_immediately" => some .closeImmediately
  | _ => none

section

variable (d : Document)

/-- Reads how a client closes. -/
def CloseSettings.ofNode (n : Node) : Except Misreading CloseSettings := do
  let given ← d.fields ["unload", "policy", "drain_timeout_ms"] n
  let default : CloseSettings := {}
  pure {
    unload := ← optionalField given "unload" default.unload fun n =>
      Misreading.require .notFlag (d.flag? n)
    policy := ← optionalField given "policy" default.policy fun n =>
      Misreading.require .unknownWord ((d.word? n).bind ClosePolicy.ofWord?)
    drainTimeout := ← optionalField given "drain_timeout_ms" default.drainTimeout fun n =>
      Misreading.require .notNumber ((d.number? 64 n).map UInt64.ofNat) }

/-- Reads a configuration. -/
def Config.ofNode (n : Node) : Except Misreading Config := do
  let given ← d.fields ["base_address", "host", "stream_port", "datagram_port", "core_transport",
    "connect_timeout_ms", "on_close"] n
  let default : Config := {}
  let text := fun n => Misreading.require .notText (d.text? n)
  let port := fun n => Misreading.require .notNumber ((d.number? 16 n).map UInt16.ofNat)
  pure {
    baseAddress := ← optionalField given "base_address" default.baseAddress text
    host := ← optionalField given "host" default.host text
    streamPort := ← optionalField given "stream_port" default.streamPort port
    datagramPort := ← optionalField given "datagram_port" default.datagramPort port
    coreTransport := ← optionalField given "core_transport" default.coreTransport fun n =>
      Misreading.require .unknownWord ((d.word? n).bind TransportKind.ofWord?)
    connectTimeout := ← optionalField given "connect_timeout_ms" default.connectTimeout fun n =>
      Misreading.require .notNumber ((d.number? 64 n).map UInt64.ofNat)
    onClose := ← optionalField given "on_close" default.onClose (CloseSettings.ofNode d) }

end

/-- Reads a configuration; a document without a root says nothing. -/
def Config.ofDocument (d : Document) : Except Misreading Config :=
  match d.root with
  | some n => Config.ofNode d n
  | none => pure {}

/-- Reads a configuration from a text. -/
def Config.ofText (text : String) : Except Misreading Config :=
  match Document.read text with
  | .ok d => Config.ofDocument d
  | .error cause => throw (.document cause)

end OscRemote
