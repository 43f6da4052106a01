import OscRemote.Frame

/-!
# Bundles

A bundle is a packet that carries several messages: a header and then each message as an entry,
with its length in front.  Messages are appended one at a time.  When the next one would make the
packet longer than the bound, the packet is handed out first and the message begins the next; so a
packet is longer than the bound only if it carries a single message.
-/

namespace OscRemote

/-- The length up to which datagrams are filled. -/
def maxPacketSize : Nat := 1500

namespace Bundle

/-- The octets at the beginning of a bundle, a text of seven characters and a zero. -/
def magic : Octets := octetsOf "#bundle" ++ [0]

/-- The time tag that asks for the messages to be carried out at once. -/
def immediately : Nat := 1

/-- What stands before the entries. -/
def header : Octets := magic ++ Octets.bigEndian 8 immediately

/-- The length of the header. -/
def headerSize : Nat := 16

/-- A packet with one entry for each message. -/
def packet (messages : List Octets) : Octets :=
  header ++ frames messages

/-- The messages of a packet, if it is a bundle from end to end. -/
def entries? (packet : Octets) : Option (List Octets) :=
  if packet.take headerSize = header then
    match Frame.read (packet.drop headerSize) with
    | (messages, []) => some messages
    | _ => none
  else none

end Bundle

/-- A bundle under construction: the bound on its length, its packet so far, and the number of
messages in it. -/
structure Bundle where
  maxSize : Nat := maxPacketSize
  buffer : Octets := Bundle.header
  count : Nat := 0
deriving DecidableEq

namespace Bundle

/-- The length of the packet so far. -/
def size (b : Bundle) : Nat := b.buffer.length

/-- Whether there is no message. -/
def isEmpty (b : Bundle) : Bool := b.count == 0

/-- The packet, unless there is no message. -/
def close (b : Bundle) : Option Octets :=
  if b.isEmpty then none else some b.buffer

/-- The bundle with one more entry. -/
def put (b : Bundle) (message : Octets) : Bundle :=
  { b with buffer := b.buffer ++ framed message, count := b.count + 1 }

/-- Whether a message would make the packet longer than the bound. -/
def isFullFor (b : Bundle) (message : Octets) : Bool :=
  decide (b.maxSize < b.size + lengthPrefixSize + message.length)

/-- Adds a message at the end, and gives the packet of those before it if it does not fit behind
them.  An empty message is left out. -/
def append (b : Bundle) (message : Octets) : Bundle × Option Octets :=
  if message.isEmpty then (b, none)
  else if !b.isEmpty && b.isFullFor message then
    (({ maxSize := b.maxSize } : Bundle).put message, some b.buffer)
  else (b.put message, none)

/-- Adds messages in order, and gives the packets that this completes. -/
def appendAll (b : Bundle) : List Octets → Bundle × List Octets
  | [] => (b, [])
  | message :: messages =>
    let (b, packet?) := b.append message
    let (b, packets) := b.appendAll messages
    (b, packet?.toList ++ packets)

/-- The packets in which messages travel under a bound. -/
def packets (maxSize : Nat) (messages : List Octets) : List Octets :=
  let (b, packets) := appendAll { maxSize } messages
  packets ++ b.close.toList

end Bundle

end OscRemote
