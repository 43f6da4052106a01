import OscRemote.Message.Basic
import OscRemote.Message.Error

/-!
# The wire format of messages

A message is written as its address, its type tags and the values of its arguments, one after the
other.  Texts end in one to four zero octets, so that every part begins at a multiple of four.
-/

namespace OscRemote

-- Sums are those of the core library, whatever else is in scope.
attribute [local instance (2000)] Zero.ofOfNat0

/-- Every part of a message begins at a multiple of this many octets. -/
def alignment : Nat := 4

/-- The length of a text of `n` octets with the zeros behind it, of which there is at least one. -/
def paddedLength (n : Nat) : Nat :=
  (n / alignment + 1) * alignment

/-- The octets of a text with the zeros behind them. -/
def padded (bs : Octets) : Octets :=
  bs ++ List.replicate (paddedLength bs.length - bs.length) 0

/-- Refuses a text with a character that would end it early. -/
def checkText (s : String) : Except MessageError Unit :=
  if s.toList.contains '\x00' then throw .embeddedNul else pure ()

/-- Refuses what is no address. -/
def checkAddress (address : String) : Except MessageError Unit := do
  if address.toList.head? ≠ some '/' then throw (.address address)
  checkText address

namespace Argument

/-- The text by which an error names a character outside ASCII. -/
def characterText (code : UInt8) : String :=
  let digits := Nat.toDigits 16 code.toNat
  String.ofList (['0', 'x'] ++ List.replicate (2 - digits.length) '0' ++ digits)

/-- The octets of an argument's value; a marker has none.  A floating-point value is written as its
bits are, whether or not they stand for a number. -/
def payload : Argument → Except MessageError Octets
  | int32 value => pure (Octets.bigEndian 4 value.toUInt32.toNat)
  | int64 value => pure (Octets.bigEndian 8 value.toUInt64.toNat)
  | float32 value => pure (Octets.bigEndian 4 value.bits.toNat)
  | float64 value => pure (Octets.bigEndian 8 value.bits.toNat)
  | text value => do
    checkText value
    pure (padded (octetsOf value))
  | character code =>
    if code < 128 then pure [code, 0, 0, 0] else throw (.badValue 'c' (characterText code))
  | flag _ => pure []
  | nil => pure []
  | infinitum => pure []
  | reserved => throw (.unsupportedTag reserved.tag)

/-- The number of octets of an argument's value. -/
def payloadSize : Argument → Except MessageError Nat
  | int32 _ => pure 4
  | int64 _ => pure 8
  | float32 _ => pure 4
  | float64 _ => pure 8
  | text value => do
    checkText value
    pure (paddedLength value.utf8ByteSize)
  | character code => if code < 128 then pure 4 else throw (.badValue 'c' (characterText code))
  | flag _ => pure 0
  | nil => pure 0
  | infinitum => pure 0
  | reserved => throw (.unsupportedTag reserved.tag)

end Argument

/-- Writes a message.  The address is checked first, then each argument in order. -/
def encode (address : String) (args : List Argument) : Except MessageError Octets := do
  checkAddress address
  let payloads ← args.mapM Argument.payload
  pure (padded (octetsOf address) ++ padded (octetsOf (typeTags args)) ++ payloads.flatten)

/-- The length of a message, found without writing it. -/
def encodedSize (address : String) (args : List Argument) : Except MessageError Nat := do
  checkAddress address
  let sizes ← args.mapM Argument.payloadSize
  pure (paddedLength address.utf8ByteSize + paddedLength (1 + args.length) + sizes.sum)

/-- Writes a message. -/
def Message.encode (m : Message) : Except MessageError Octets :=
  OscRemote.encode m.address m.arguments

end OscRemote
