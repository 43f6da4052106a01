import OscRemote.Number.Binary
import OscRemote.Octets

/-!
# Messages

A message is an address and a list of typed arguments.  Each kind of argument has a type tag, a
single letter.  The last four kinds belong to the set of types but have no encoding here.
-/

namespace OscRemote

open Number (Single Double)

/-- A typed argument of a message. -/
inductive Argument where
  | int32 (value : Int32)
  | int64 (value : Int64)
  | float32 (value : Single)
  | float64 (value : Double)
  | text (value : String)
  | character (code : UInt8)
  | flag (value : Bool)
  | nil
  | infinitum
  | blob (data : Octets)
  | timeTag (value : UInt64)
  | rgba (value : UInt32)
  | midi (data : UInt32)
deriving DecidableEq

namespace Argument

/-- The type tag of an argument. -/
def tag : Argument → Char
  | int32 _ => 'i'
  | int64 _ => 'h'
  | float32 _ => 'f'
  | float64 _ => 'd'
  | text _ => 's'
  | character _ => 'c'
  | flag true => 'T'
  | flag false => 'F'
  | nil => 'N'
  | infinitum => 'I'
  | blob _ => 'b'
  | timeTag _ => 't'
  | rgba _ => 'r'
  | midi _ => 'm'

/-- Whether arguments with this tag carry a value: all but the four markers do. -/
def takesValue (tag : Char) : Bool :=
  tag != 'T' && tag != 'F' && tag != 'N' && tag != 'I'

/-- Equality of arguments, where floating-point values are compared as numbers. -/
def same : Argument → Argument → Bool
  | float32 x, float32 y => x.sameNumber y
  | float64 x, float64 y => x.sameNumber y
  | a, b => a == b

end Argument

/-- Equality of lists of arguments. -/
def sameArguments : List Argument → List Argument → Bool
  | [], [] => true
  | a :: as, b :: bs => a.same b && sameArguments as bs
  | _, _ => false

/-- The type tags of the arguments, after a comma. -/
def typeTags (args : List Argument) : String :=
  String.ofList (',' :: args.map Argument.tag)

/-- An address and the arguments for it. -/
structure Message where
  address : String
  arguments : List Argument := []
deriving DecidableEq

namespace Message

/-- The message with one more argument at the end. -/
def push (m : Message) (arg : Argument) : Message :=
  { m with arguments := m.arguments ++ [arg] }

/-- The type tags of the message's arguments, after a comma. -/
def typeTags (m : Message) : String :=
  OscRemote.typeTags m.arguments

/-- Equality of messages, where floating-point values are compared as numbers. -/
def same (m n : Message) : Bool :=
  m.address == n.address && sameArguments m.arguments n.arguments

end Message

end OscRemote
