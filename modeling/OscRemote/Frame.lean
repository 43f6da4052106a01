import OscRemote.Octets

/-!
# Frames

On a stream each message is preceded by its length, in four octets.  `frames` writes messages one
after the other and `Frame.read` takes them off again; what is left at the end is the beginning of a
frame that has not arrived as a whole.
-/

namespace OscRemote

/-- The number of octets of the length in front of a frame or of an entry of a bundle. -/
def lengthPrefixSize : Nat := 4

/-- A message with its length in front. -/
def framed (message : Octets) : Octets :=
  Octets.bigEndian lengthPrefixSize message.length ++ message

/-- Messages with their lengths in front, one after the other. -/
def frames (messages : List Octets) : Octets :=
  messages.flatMap framed

namespace Frame

/-- Takes one message off the front, if its frame is complete. -/
def readOne? (bs : Octets) : Option (Octets × Octets) :=
  (Octets.readNat? lengthPrefixSize bs).bind fun (length, rest) => Octets.take? length rest

theorem length_readOne? {bs message rest : Octets} (h : readOne? bs = some (message, rest)) :
    rest.length < bs.length := by
  rw [readOne?, Option.bind_eq_some_iff] at h
  obtain ⟨⟨length, rest'⟩, hn, ht⟩ := h
  have hn := Octets.length_readNat? hn
  obtain ⟨rfl, -⟩ := Octets.eq_append_of_take? ht
  simp only [lengthPrefixSize, List.length_append] at hn
  omega

/-- Takes messages off the front while their frames are complete. -/
def read (bs : Octets) : List Octets × Octets :=
  match _h : readOne? bs with
  | none => ([], bs)
  | some (message, rest) =>
    let (messages, rest) := read rest
    (message :: messages, rest)
termination_by bs.length
decreasing_by exact length_readOne? ‹_›

end Frame

end OscRemote
