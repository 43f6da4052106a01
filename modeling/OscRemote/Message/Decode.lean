import OscRemote.Message.Encode

/-!
# Reading messages

`decode` takes a message off the front of some octets.  A message tells where it ends, so nothing
need be known about what follows it.
-/

namespace OscRemote

open Number (Single Double)

/-- Reads a text with the zeros behind it. -/
def readPadded? (bs : Octets) : Option (Octets × Octets) :=
  let content := bs.takeWhile (· != 0)
  let size := paddedLength content.length
  if bs.take size = padded content then some (content, bs.drop size) else none

/-- Reads the value of an argument with this tag. -/
def readArgument? (tag : UInt8) (bs : Octets) : Option (Argument × Octets) :=
  match Char.ofNat tag.toNat with
  | 'i' => (Octets.readNat? 4 bs).map fun (n, rest) => (.int32 (UInt32.ofNat n).toInt32, rest)
  | 'h' => (Octets.readNat? 8 bs).map fun (n, rest) => (.int64 (UInt64.ofNat n).toInt64, rest)
  | 'f' => (Octets.readNat? 4 bs).map fun (n, rest) => (.float32 ⟨UInt32.ofNat n⟩, rest)
  | 'd' => (Octets.readNat? 8 bs).map fun (n, rest) => (.float64 ⟨UInt64.ofNat n⟩, rest)
  | 's' => do
    let (content, rest) ← readPadded? bs
    let value ← textOf? content
    pure (.text value, rest)
  | 'c' =>
    match bs with
    | code :: 0 :: 0 :: 0 :: rest => some (.character code, rest)
    | _ => none
  | 'T' => some (.flag true, bs)
  | 'F' => some (.flag false, bs)
  | 'N' => some (.nil, bs)
  | 'I' => some (.infinitum, bs)
  | _ => none

/-- Reads the values of arguments with these tags, in order. -/
def readArguments? : (tags : Octets) → Octets → Option (List Argument × Octets)
  | [], bs => some ([], bs)
  | tag :: tags, bs => do
    let (arg, bs) ← readArgument? tag bs
    let (args, bs) ← readArguments? tags bs
    pure (arg :: args, bs)

/-- Reads a message, and what is left behind it. -/
def decode (bs : Octets) : Option (String × List Argument × Octets) := do
  let (addressOctets, bs) ← readPadded? bs
  let address ← textOf? addressOctets
  let (tags, bs) ← readPadded? bs
  match tags with
  | [] => none
  | comma :: tags =>
    if comma.toNat = ','.toNat then
      let (args, bs) ← readArguments? tags bs
      pure (address, args, bs)
    else none

end OscRemote
