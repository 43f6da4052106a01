import OscRemote.Message.Basic
import OscRemote.Message.Error
import OscRemote.Number.Literal

/-!
# Arguments as text

An argument is given as text by its type tag and its value.  A marker takes no value.
-/

namespace OscRemote

namespace Argument

/-- The argument that a value spells under a tag, or nothing if it spells none.  For a marker the
value is not looked at. -/
def ofText? (tag : Char) (value : String) : Option Argument :=
  match tag with
  | 'i' => (Number.signed? 32 10 value.toList).map fun n => .int32 (Int32.ofInt n)
  | 'h' => (Number.signed? 64 10 value.toList).map fun n => .int64 (Int64.ofInt n)
  | 'f' => (Number.single? value).map .float32
  | 'd' => (Number.double? value).map .float64
  | 's' => some (.text value)
  | 'c' =>
    match value.toList with
    | [c] => if c.toNat < 128 then some (.character (UInt8.ofNat c.toNat)) else none
    | _ => none
  | 'T' => some (.flag true)
  | 'F' => some (.flag false)
  | 'N' => some .nil
  | 'I' => some .infinitum
  | _ => none

/-- Whether arguments with this tag can be given as text. -/
def isReadable (tag : Char) : Bool :=
  ['i', 'h', 'f', 'd', 's', 'c', 'T', 'F', 'N', 'I'].contains tag

/-- Reads an argument. -/
def read (tag : Char) (value : String) : Except MessageError Argument :=
  if isReadable tag then
    match ofText? tag value with
    | some arg => pure arg
    | none => throw (.badValue tag value)
  else throw (.unsupportedTag tag)

end Argument

end OscRemote
