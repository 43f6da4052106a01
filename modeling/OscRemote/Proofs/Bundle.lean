import OscRemote.Bundle
import OscRemote.Proofs.Frame

/-!
# What bundles carry

Appending hands out a packet now and then and keeps the rest, so what is said of a run is where the
messages went: a group of them in each packet that was handed out, and the last ones in the bundle
(`Packed`).  One step keeps this (`Packed.append`), hence a run does (`Packed.appendAll`), and
closing the bundle at the end makes its messages one more group.

The bound is on packets of two or more messages.  It is kept because a bundle that has a message
takes another one only within the bound, and because a message too long for every packet finds the
bundle as it was opened.
-/

namespace OscRemote

namespace Bundle

variable {b : Bundle} {maxSize : Nat} {messages sent held : List Octets} {message : Octets}

/-! ## Packets -/

@[simp] lemma length_header : header.length = headerSize := rfl

@[simp] lemma packet_nil : packet [] = header := List.append_nil header

lemma packet_concat (messages : List Octets) (message : Octets) :
    packet (messages ++ [message]) = packet messages ++ framed message := by
  simp only [packet, frames_append, frames_cons, frames_nil, List.append_nil, List.append_assoc]

/-- The entries of a packet are read back, and nothing is left. -/
lemma entries?_packet (h : ∀ message ∈ messages, message.length < lengthLimit) :
    entries? (packet messages) = some messages := by
  have hhead : (packet messages).take headerSize = header := by
    rw [packet, ← length_header, List.take_left]
  have hrest : (packet messages).drop headerSize = frames messages := by
    rw [packet, ← length_header, List.drop_left]
  rw [entries?, if_pos hhead, hrest, Frame.read_frames h]

/-- The messages that a datagram carries: its entries if it is a bundle, and itself if it is not. -/
def carried (datagram : Octets) : List Octets := (entries? datagram).getD [datagram]

lemma carried_packet (h : ∀ message ∈ messages, message.length < lengthLimit) :
    carried (packet messages) = messages := by
  rw [carried, entries?_packet h, Option.getD_some]

/-- Messages that may travel in one packet: there is one, and if there are more the packet is within
the bound. -/
structure IsLoad (maxSize : Nat) (messages : List Octets) : Prop where
  ne_nil : messages ≠ []
  length_le : 2 ≤ messages.length → (packet messages).length ≤ maxSize

/-- A bundle under this bound that has these messages. -/
structure Holds (b : Bundle) (maxSize : Nat) (held : List Octets) : Prop where
  maxSize_eq : b.maxSize = maxSize
  buffer_eq : b.buffer = packet held
  count_eq : b.count = held.length
  length_le : 2 ≤ held.length → (packet held).length ≤ maxSize

/-- Where messages are that were appended: in the packets, a group in each, and the last of them in
the bundle. -/
def Packed (maxSize : Nat) (messages sent : List Octets) (b : Bundle) : Prop :=
  ∃ (groups : List (List Octets)) (held : List Octets), sent = groups.map packet ∧
    (∀ group ∈ groups, IsLoad maxSize group) ∧ b.Holds maxSize held ∧
    groups.flatten ++ held = messages

lemma holds_open (maxSize : Nat) : ({ maxSize } : Bundle).Holds maxSize [] where
  maxSize_eq := rfl
  buffer_eq := packet_nil.symm
  count_eq := rfl
  length_le h := absurd h (by decide)

lemma Holds.packed (h : b.Holds maxSize held) : Packed maxSize held [] b :=
  ⟨[], held, rfl, List.forall_mem_nil _, h, rfl⟩

lemma Holds.isEmpty_iff (h : b.Holds maxSize held) : b.isEmpty = true ↔ held = [] := by
  rw [isEmpty, beq_iff_eq, h.count_eq, List.length_eq_zero_iff]

lemma Holds.isLoad (h : b.Holds maxSize held) (hne : held ≠ []) : IsLoad maxSize held :=
  ⟨hne, h.length_le⟩

lemma Holds.size_eq (h : b.Holds maxSize held) : b.size = (packet held).length := by
  rw [size, h.buffer_eq]

/-- A message goes in where the packet stays within the bound, and into a bundle without one. -/
lemma Holds.put (h : b.Holds maxSize held)
    (hfits : held = [] ∨ (packet (held ++ [message])).length ≤ maxSize) :
    (b.put message).Holds maxSize (held ++ [message]) where
  maxSize_eq := h.maxSize_eq
  buffer_eq := by rw [packet_concat, ← h.buffer_eq, Bundle.put]
  count_eq := by rw [List.length_append, ← h.count_eq, Bundle.put, List.length_singleton]
  length_le htwo := by
    rcases hfits with rfl | hle
    · exact absurd htwo (by simp)
    · exact hle

/-- A message that is not empty goes into the bundle if that is empty or has room, and else into
another one, when the packet of the first is handed out. -/
lemma append_cases (b : Bundle) (hne : message ≠ []) :
    (b.count = 0 ∨ b.buffer.length + lengthPrefixSize + message.length ≤ b.maxSize) ∧
      b.append message = (b.put message, none) ∨
    b.count ≠ 0 ∧ b.maxSize < b.buffer.length + lengthPrefixSize + message.length ∧
      b.append message = (({ maxSize := b.maxSize } : Bundle).put message, some b.buffer) := by
  have hempty : message.isEmpty = false := by simpa using hne
  have hfull : b.isFullFor message = true ↔
      b.maxSize < b.buffer.length + lengthPrefixSize + message.length := decide_eq_true_iff
  unfold append
  rw [hempty, if_neg Bool.false_ne_true]
  split
  case isTrue h =>
    rw [Bool.and_eq_true, hfull, isEmpty, Bool.not_eq_true', beq_eq_false_iff_ne] at h
    exact Or.inr ⟨h.1, h.2, rfl⟩
  case isFalse h =>
    rw [Bool.and_eq_true, hfull, isEmpty, Bool.not_eq_true', beq_eq_false_iff_ne] at h
    exact Or.inl ⟨by omega, rfl⟩

/-- A message that is not empty joins those of the bundle if there are none or the packet stays
within the bound; else their packet is handed out, and the message is alone. -/
lemma Holds.append_cases (h : b.Holds maxSize held) (hne : message ≠ []) :
    (held = [] ∨ (packet (held ++ [message])).length ≤ maxSize) ∧
      (b.append message).2 = none ∧ (b.append message).1.Holds maxSize (held ++ [message]) ∨
    held ≠ [] ∧ maxSize < (packet (held ++ [message])).length ∧
      (b.append message).2 = some (packet held) ∧
      (b.append message).1.Holds maxSize [message] := by
  have hlength : (packet (held ++ [message])).length =
      b.buffer.length + lengthPrefixSize + message.length := by
    rw [packet_concat, List.length_append, length_framed, h.buffer_eq, Nat.add_assoc]
  have hcount : b.count = 0 ↔ held = [] := by rw [h.count_eq, List.length_eq_zero_iff]
  obtain ⟨hroom, happend⟩ | ⟨hsome, hfull, happend⟩ := b.append_cases hne
  · have hfits : held = [] ∨ (packet (held ++ [message])).length ≤ maxSize := by
      rwa [hlength, ← h.maxSize_eq, ← hcount]
    rw [happend]
    exact Or.inl ⟨hfits, rfl, h.put hfits⟩
  · have hlong : maxSize < (packet (held ++ [message])).length := by
      rwa [hlength, ← h.maxSize_eq]
    rw [happend, h.buffer_eq, h.maxSize_eq]
    exact Or.inr ⟨mt hcount.2 hsome, hlong, rfl, (holds_open maxSize).put (Or.inl rfl)⟩

/-- An empty message is left out. -/
lemma append_nil (b : Bundle) : b.append [] = (b, none) := rfl

/-- Appending keeps account of every message but an empty one. -/
lemma Packed.append (h : Packed maxSize messages sent b) (message : Octets) :
    Packed maxSize (messages ++ [message].filter (!·.isEmpty))
      (sent ++ (b.append message).2.toList) (b.append message).1 := by
  obtain ⟨groups, held, rfl, hgroups, hb, rfl⟩ := h
  by_cases hempty : message = []
  · subst hempty
    exact ⟨groups, held, List.append_nil _, hgroups, hb, (List.append_nil _).symm⟩
  · have hfilter : [message].filter (!·.isEmpty) = [message] := by simp [hempty]
    rw [hfilter]
    obtain ⟨-, hnone, hb'⟩ | ⟨hne, -, hsome, hb'⟩ := hb.append_cases hempty
    · rw [hnone]
      exact ⟨groups, held ++ [message], List.append_nil _, hgroups, hb', by simp⟩
    · rw [hsome]
      refine ⟨groups ++ [held], [message], by simp, ?_, hb', by simp⟩
      exact List.forall_mem_append.2 ⟨hgroups, List.forall_mem_singleton.2 (hb.isLoad hne)⟩

/-- What appending one message keeps, of the messages that are not empty, of the packets so far and
of the bundle, appending one after the other keeps. -/
lemma appendAll_induction {P : List Octets → List Octets → Bundle → Prop}
    (step : ∀ {messages sent b} (message : Octets), P messages sent b →
      P (messages ++ [message].filter (!·.isEmpty)) (sent ++ (b.append message).2.toList)
        (b.append message).1)
    (h : P messages sent b) (more : List Octets) :
    P (messages ++ more.filter (!·.isEmpty)) (sent ++ (b.appendAll more).2)
      (b.appendAll more).1 := by
  induction more generalizing b messages sent with
  | nil => simpa [Bundle.appendAll] using h
  | cons message more ih =>
    have hall := ih (step message h)
    rw [List.append_assoc, ← List.filter_append, List.append_assoc] at hall
    exact hall

/-- Appending one after the other keeps account of all messages but the empty ones. -/
lemma Packed.appendAll (h : Packed maxSize messages sent b) (more : List Octets) :
    Packed maxSize (messages ++ more.filter (!·.isEmpty)) (sent ++ (b.appendAll more).2)
      (b.appendAll more).1 :=
  appendAll_induction (P := Packed maxSize) (fun message h => h.append message) h more

/-- Closing a bundle makes a packet of its messages. -/
lemma Holds.close_eq (h : b.Holds maxSize held) :
    b.close = if held = [] then none else some (packet held) := by
  unfold close
  by_cases hnil : held = []
  · rw [if_pos hnil, if_pos (h.isEmpty_iff.2 hnil)]
  · rw [if_neg hnil, if_neg (mt h.isEmpty_iff.1 hnil), h.buffer_eq]

/-- After closing, all messages are in packets. -/
lemma Packed.close (h : Packed maxSize messages sent b) :
    ∃ groups : List (List Octets), sent ++ b.close.toList = groups.map packet ∧
      (∀ group ∈ groups, IsLoad maxSize group) ∧ groups.flatten = messages := by
  obtain ⟨groups, held, rfl, hgroups, hb, rfl⟩ := h
  rw [hb.close_eq]
  by_cases hnil : held = []
  · refine ⟨groups, ?_, hgroups, ?_⟩
    · simp [hnil]
    · simp [hnil]
  · refine ⟨groups ++ [held], ?_, ?_, ?_⟩
    · simp [hnil]
    · exact List.forall_mem_append.2 ⟨hgroups, List.forall_mem_singleton.2 (hb.isLoad hnil)⟩
    · simp

lemma packed_appendAll (maxSize : Nat) (messages : List Octets) :
    Packed maxSize (messages.filter (!·.isEmpty)) (appendAll { maxSize } messages).2
      (appendAll { maxSize } messages).1 :=
  (holds_open maxSize).packed.appendAll messages

/-- Closing a bundle gives a packet with its length and its number of messages, unless there is no
message. -/
lemma Holds.of_close (h : b.Holds maxSize held)
    (hheld : ∀ message ∈ held, message.length < lengthLimit) :
    (b.close = none ↔ b.count = 0) ∧
    ∀ packet ∈ b.close, b.size = packet.length ∧
      (entries? packet).map List.length = some b.count := by
  rw [h.close_eq, h.count_eq, List.length_eq_zero_iff]
  by_cases hnil : held = []
  · simp [hnil]
  · simp [hnil, h.size_eq, entries?_packet hheld]

/-- Under a bound of 28 octets: two messages that just fit, an empty one between them, one more, one
that is too long for every packet, and one behind it. -/
def sampleMessages : List Octets :=
  [[1, 2], [], [3, 4], [5], [6, 7, 8, 9, 10, 11, 12, 13, 14], [15]]

end Bundle

end OscRemote
