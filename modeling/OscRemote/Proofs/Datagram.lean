import OscRemote.Proofs.Bundle
import OscRemote.Proofs.Message.Acceptance

/-!
# Datagrams

A datagram is a message by itself or a bundle of messages (`Datagram`).  Messages begin with a slash
and bundles with a hash, so whoever gets a datagram can tell which it is and read back what is in it
(`Datagram.carried_octets`).  `IsDatagram` is said of the octets alone, and it holds of whatever is
sent as long as bundles are kept within the bound (`Datagram.IsLoad.isDatagram`).
-/

namespace OscRemote

/-! ## The first octet of a bundle -/

/-- The octet of a hash. -/
def hashOctet : UInt8 := 35

namespace Bundle

lemma head?_packet (messages : List Octets) :
    (packet messages).head? = some hashOctet := rfl

/-- Nothing is a bundle that does not begin with a hash. -/
lemma entries?_eq_none {datagram : Octets} (h : datagram.head? ≠ some hashOctet) :
    entries? datagram = none := by
  have hheader : datagram.take headerSize ≠ header := by
    intro heq
    apply h
    have hhead := congrArg List.head? heq
    rwa [List.head?_take, if_neg (by decide)] at hhead
  rw [entries?, if_neg hheader]

end Bundle

/-! ## Messages that can be bundled -/

/-- A message that was encoded, and is short enough for its length to be written in front. -/
def IsMessage (message : Octets) : Prop :=
  (∃ address args, encode address args = .ok message) ∧ message.length < lengthLimit

lemma IsMessage.alignment_dvd {message : Octets} (h : IsMessage message) :
    alignment ∣ message.length := by
  obtain ⟨⟨address, args, hencode⟩, -⟩ := h
  exact alignment_dvd_length_encode hencode

lemma IsMessage.head? {message : Octets} (h : IsMessage message) :
    message.head? = some slashOctet := by
  obtain ⟨⟨address, args, hencode⟩, -⟩ := h
  exact head?_encode hencode

lemma IsMessage.entries?_eq_none {message : Octets} (h : IsMessage message) :
    Bundle.entries? message = none := by
  apply Bundle.entries?_eq_none
  rw [h.head?]
  decide

lemma alignment_dvd_length_frames {messages : List Octets}
    (h : ∀ message ∈ messages, IsMessage message) : alignment ∣ (frames messages).length := by
  induction messages with
  | nil => exact ⟨0, rfl⟩
  | cons message messages ih =>
    rw [frames_cons, List.length_append, length_framed]
    have hmessage := (h message List.mem_cons_self).alignment_dvd
    have hmessages := ih fun m hm => h m (List.mem_cons_of_mem _ hm)
    exact Nat.dvd_add (Nat.dvd_add ⟨1, rfl⟩ hmessage) hmessages

/-- What a datagram looks like: its length is divisible by four, it is a message or a bundle of at
least one, and it is longer than the bound only if it carries a single message. -/
structure IsDatagram (datagram : Octets) : Prop where
  aligned : alignment ∣ datagram.length
  plain_or_bundle : (datagram.head? = some slashOctet ∧ Bundle.entries? datagram = none) ∨
    (datagram.head? = some hashOctet ∧
      ∃ entries, entries ≠ [] ∧ Bundle.entries? datagram = some entries)
  single_of_lt : maxPacketSize < datagram.length → ∃ message, Bundle.carried datagram = [message]

/-! ## What is in a datagram -/

/-- What travels in one datagram: a message by itself, or a bundle of messages. -/
inductive Datagram where
  | plain (message : Octets)
  | bundle (messages : List Octets)

namespace Datagram

/-- The datagram as it travels. -/
def octets : Datagram → Octets
  | plain message => message
  | bundle messages => Bundle.packet messages

/-- The messages of a datagram. -/
def messages : Datagram → List Octets
  | plain message => [message]
  | bundle messages => messages

/-- A bundle has a message, and it is within the bound if it has two. -/
def IsLoad : Datagram → Prop
  | plain _ => True
  | bundle messages => Bundle.IsLoad maxPacketSize messages

variable {load : Datagram}

/-- The messages of a datagram are read back. -/
lemma carried_octets (h : ∀ message ∈ load.messages, IsMessage message) :
    Bundle.carried load.octets = load.messages := by
  cases load with
  | plain message =>
    have hmessage : IsMessage message := h message List.mem_cons_self
    rw [octets, Bundle.carried, hmessage.entries?_eq_none]
    rfl
  | bundle messages => exact Bundle.carried_packet fun message hm => (h message hm).2

lemma IsLoad.isDatagram (hload : load.IsLoad) (h : ∀ message ∈ load.messages, IsMessage message) :
    IsDatagram load.octets := by
  have hcarried := carried_octets h
  cases load with
  | plain message =>
    have hmessage : IsMessage message := h message List.mem_cons_self
    exact {
      aligned := hmessage.alignment_dvd
      plain_or_bundle := Or.inl ⟨hmessage.head?, hmessage.entries?_eq_none⟩
      single_of_lt := fun _ => ⟨message, hcarried⟩ }
  | bundle messages =>
    have hentries : Bundle.entries? (Bundle.packet messages) = some messages :=
      Bundle.entries?_packet fun message hm => (h message hm).2
    refine ⟨?_, Or.inr ⟨Bundle.head?_packet messages, messages, hload.ne_nil, hentries⟩, ?_⟩
    · rw [octets, Bundle.packet, List.length_append]
      exact Nat.dvd_add ⟨4, rfl⟩ (alignment_dvd_length_frames h)
    · intro hlt
      rw [hcarried]
      have hpos : messages.length ≠ 0 := mt List.length_eq_zero_iff.1 hload.ne_nil
      have htwo : ¬ 2 ≤ messages.length := fun htwo =>
        Nat.not_le_of_lt hlt (hload.length_le htwo)
      have hone : messages.length = 1 := by omega
      exact List.length_eq_one_iff.1 hone

end Datagram

end OscRemote
