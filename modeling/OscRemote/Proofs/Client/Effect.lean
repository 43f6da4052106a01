import OscRemote.Proofs.Client.Closing
import OscRemote.Proofs.Number.Binary

/-!
# What one operation adds

An operation that has a message adds one thing to one place: the message goes to the end of the
queue of its transport, or into the open bundle, and in the second case the packet of the messages
before it may go to the end of the queue of datagrams first (`Client.Adds`).  An operation without a
packet, because its message has no encoding or because it is a volume beyond its bounds, adds
nothing anywhere; so it may be left out of a run, wherever it stands, and nothing that is asked of
the transports changes.

This holds of every client and of every state of the transports, whatever has led there.
-/

namespace OscRemote

open Number (Single)

/-! ## Volumes beyond their bounds -/

namespace Number.Single

/-- A number that is not between 0 and 1: not a number at all, below zero, or above one. -/
def IsBeyondUnit (x : Single) : Prop :=
  x.isNan = true ∨ x.isNegative = true ∧ x.magnitude ≠ 0 ∨ 0x3F800000 < x.magnitude

lemma inUnitInterval_eq_false_iff (x : Single) : x.inUnitInterval = false ↔ x.IsBeyondUnit := by
  have hmagnitude := x.toNat_magnitude
  have hbound := x.bits.toNat_lt
  simp only [IsBeyondUnit, isNan, isNegative, inUnitInterval, Bool.or_eq_false_iff,
    decide_eq_false_iff_not, decide_eq_true_eq, beq_eq_false_iff_ne, ne_eq, UInt32.le_iff_toNat_le,
    UInt32.lt_iff_toNat_lt, ← UInt32.toNat_inj, UInt32.reduceToNat]
  omega

end Number.Single

namespace Operation

/-- Whether an operation is one that has a message, whatever its arguments. -/
def isSending : Operation → Bool
  | load | unload | mute _ | systemMute _ | volume _ | systemVolume _ | send .. => true
  | startBundle | endBundle | drain | close => false

/-- A volume that is not between 0 and 1. -/
def IsBeyondBounds : Operation → Prop
  | volume level | systemVolume level => level.IsBeyondUnit
  | _ => False

variable {config : Config} {op : Operation}

lemma message?_eq_none_iff (config : Config) (hop : op.isSending = true) :
    op.message? config = none ↔ op.IsBeyondBounds := by
  cases op with
  | volume level | systemVolume level =>
    rw [IsBeyondBounds, ← Single.inUnitInterval_eq_false_iff]
    cases hlevel : level.inUnitInterval <;> simp [message?, hlevel]
  | load | unload | mute | systemMute | send => exact iff_of_false (by rintro ⟨⟩) not_false
  | startBundle | endBundle | drain | close => cases hop

end Operation

/-! ## Places -/

/-- What becomes of a thread and its transports if it carries out requests at once, before those it
has and before anything else happens. -/
def Caller.carryOut? (r : Caller) : List Request → Option Caller
  | [] => some r
  | request :: requests =>
    (({ r with requests := request :: r.requests } : Caller).perform? .proceed).bind
      (carryOut? · requests)

/-- One packet was put at the end of one queue.  A worker that was running goes on, and nothing else
of its transport has changed; if none was, one is now.  Nothing has arrived, and the other transport
is as it was. -/
structure Caller.Queues (r : Caller) (kind : TransportKind) (packet : Octets) (r' : Caller) :
    Prop where
  queue : (r'.outlet kind).system.transport.queue =
    (r.outlet kind).system.transport.queue ++ [packet]
  running : (r'.outlet kind).system.transport.isRunning = true
  unchanged : (r.outlet kind).system.transport.isRunning = true →
    (r'.outlet kind).system.transport = { (r.outlet kind).system.transport with
      queue := (r.outlet kind).system.transport.queue ++ [packet] }
  arrivals : (r'.outlet kind).arrivals = (r.outlet kind).arrivals
  other : ∀ other, other ≠ kind → r'.outlet other = r.outlet other
  requests : r'.requests = r.requests
  standing : r'.standing = r.standing

namespace Client

/-- One message was added at the end of one place: to the queue of its transport; to the open
bundle, which is empty or has room for it; or to a bundle in place of the open one, whose packet is
now at the end of the queue of datagrams. -/
inductive Adds (c : Client) (r : Caller) (kind : TransportKind) (message : Octets) :
    Client → Caller → Prop
  | queued {r' : Caller} (h : kind = .stream ∨ c.bundle = none) (hr : r.Queues kind message r') :
      Adds c r kind message c r'
  | collected {b : Bundle} (hkind : kind = .datagram) (hb : c.bundle = some b)
      (hroom : b.count = 0 ∨ b.buffer.length + lengthPrefixSize + message.length ≤ b.maxSize) :
      Adds c r kind message { c with bundle := some (b.put message) } r
  | replaced {b : Bundle} {r' : Caller} (hkind : kind = .datagram) (hb : c.bundle = some b)
      (hsome : b.count ≠ 0)
      (hfull : b.maxSize < b.buffer.length + lengthPrefixSize + message.length)
      (hr : r.Queues .datagram b.buffer r') :
      Adds c r kind message
        { c with bundle := some (({ maxSize := b.maxSize } : Bundle).put message) } r'

end Client

/-! ## Carrying out -/

/-- A thread that is free sends a packet by putting it into the queue. -/
lemma Caller.exists_carryOut?_send (r : Caller) (hfree : r.standing = .free) (kind : TransportKind)
    (packet : Octets) :
    ∃ r', r.carryOut? [.send kind packet] = some r' ∧ r.Queues kind packet r' := by
  let sending : Caller := { r with requests := .send kind packet :: r.requests }
  have houtlet (k : TransportKind) : sending.outlet k = r.outlet k :=
    r.outlet_with _ r.standing k
  have hproceed : sending.perform? .proceed = some _ := perform?_of_send hfree rfl
  refine ⟨_, (congrArg (Option.bind · _) hproceed).trans rfl, ?_, ?_, ?_, ?_, ?_, rfl, hfree.symm⟩
  · rw [outlet_with, outlet_setOutlet, houtlet, Outlet.after, System.transport_send]
    exact Transport.send_queue _ kind packet
  · rw [outlet_with, outlet_setOutlet, Outlet.after, System.transport_send]
    exact Transport.isRunning_send _ kind packet
  · intro hrunning
    rw [outlet_with, outlet_setOutlet, houtlet, Outlet.after, System.transport_send, Transport.send,
      if_pos hrunning]
  · rw [outlet_with, outlet_setOutlet, houtlet]
    exact List.append_nil _
  · intro other hother
    rw [outlet_with, outlet_setOutlet_of_ne _ _ hother, houtlet]

namespace Client

variable {c c' : Client} {kind : TransportKind} {message : Octets} {op : Operation}

/-- Submitting adds the message, in one way or another. -/
lemma exists_adds_submit (c : Client) (kind : TransportKind) (hne : message ≠ []) (r : Caller)
    (hfree : r.standing = .free) :
    ∃ r', r.carryOut? (c.submit kind message).2 = some r' ∧
      c.Adds r kind message (c.submit kind message).1 r' := by
  have hqueued (h : kind = .stream ∨ c.bundle = none)
      (hsubmit : c.submit kind message = (c, [.send kind message])) :
      ∃ r', r.carryOut? (c.submit kind message).2 = some r' ∧
        c.Adds r kind message (c.submit kind message).1 r' := by
    obtain ⟨r', hr', hqueues⟩ := r.exists_carryOut?_send hfree kind message
    rw [hsubmit]
    exact ⟨r', hr', .queued h hqueues⟩
  cases kind with
  | stream => exact hqueued (Or.inl rfl) rfl
  | datagram =>
    cases hb : c.bundle with
    | none => exact hqueued (Or.inr hb) (submit_of_bundle_eq_none hb _ _)
    | some b =>
      have hsubmit : c.submit .datagram message =
          ({ c with bundle := some (b.append message).1 },
            (b.append message).2.toList.map (.send .datagram)) := by
        simp [submit, hb]
      rw [hsubmit]
      obtain ⟨hroom, happend⟩ | ⟨hsome, hfull, happend⟩ := b.append_cases hne
      · rw [happend]
        exact ⟨r, rfl, .collected rfl hb hroom⟩
      · obtain ⟨r', hr', hqueues⟩ := r.exists_carryOut?_send hfree .datagram b.buffer
        rw [happend]
        exact ⟨r', hr', .replaced rfl hb hsome hfull hqueues⟩

/-- An operation that has a message sends it, and does nothing else. -/
lemma perform_of_isSending (c : Client) (hop : op.isSending = true) :
    c.perform op = c.sendOperation op := by
  cases op with
  | load | unload | mute | systemMute | volume | systemVolume | send => rfl
  | startBundle | endBundle | drain | close => cases hop

/-- An operation that succeeds submits its message, if it has one. -/
lemma of_sendOperation_eq_ok {outcome : Client × List Request}
    (h : c.sendOperation op = .ok outcome) (hmessage : op.message? c.config ≠ none) :
    ∃ kind m message, op.message? c.config = some (kind, m) ∧ m.encode = .ok message ∧
      outcome = c.submit kind message := by
  unfold sendOperation at h
  split at h
  case h_1 kind m hsome =>
    unfold sendMessage at h
    cases hencode : m.encode with
    | error cause =>
      rw [hencode] at h
      cases h
    | ok message =>
      rw [hencode] at h
      exact ⟨kind, m, message, hsome, hencode, (Except.ok.inj h).symm⟩
  case h_2 hnone => exact absurd hnone hmessage

/-- An operation that fails, or has no message, leaves the client as it is and asks for nothing. -/
lemma attempt_of_not_sent (hop : op.isSending = true)
    (h : (∃ e, c.perform op = .error e) ∨ op.IsBeyondBounds) : c.attempt op = (c, []) := by
  obtain ⟨e, he⟩ | hbeyond := h
  · rw [attempt, he]
    rfl
  · have hnone := (Operation.message?_eq_none_iff c.config hop).2 hbeyond
    rw [attempt, c.perform_of_isSending hop, sendOperation, hnone]
    rfl

/-- An operation that leaves the client as it is and asks for nothing may be left out. -/
lemma performAll_leaveOut {d : Client} {before : List Operation}
    (h : (d.performAll before).1.attempt op = ((d.performAll before).1, []))
    (after : List Operation) :
    d.performAll (before ++ op :: after) = d.performAll (before ++ after) := by
  rw [performAll_append, performAll_append, performAll_cons, h, List.nil_append]

/-- An operation that has a message, whatever the client and its transports have come to, either
fails or adds something, unless it is a volume that is not between 0 and 1.

It fails only because its message has no encoding.  If it fails, or is such a volume, then the
client stays as it is, the thread has nothing to carry out, and every run of operations is the same
without it, so that the client asks for the same until it is gone.  Otherwise the message is encoded,
and when the thread has carried out what is asked for, it was added at the end of one place. -/
theorem perform_adds_one_or_nothing (c : Client) {op : Operation} (hop : op.isSending = true) :
    (∀ e, c.perform op = .error e → ∃ cause, e = .encoding cause) ∧
    ((∃ e, c.perform op = .error e) ∨ op.IsBeyondBounds →
      c.attempt op = (c, []) ∧
      (∀ r : Caller, r.carryOut? (c.attempt op).2 = some r) ∧
      ∀ d before after, (Client.performAll d before).1 = c →
        d.performAll (before ++ op :: after) = d.performAll (before ++ after) ∧
        d.lifetime (before ++ op :: after) = d.lifetime (before ++ after)) ∧
    ∀ c' asked, c.perform op = .ok (c', asked) → ¬ op.IsBeyondBounds →
      ∃ kind m message, op.message? c.config = some (kind, m) ∧ m.encode = .ok message ∧
        ∀ r : Caller, r.standing = .free →
          ∃ r', r.carryOut? asked = some r' ∧ c.Adds r kind message c' r' := by
  refine ⟨?_, ?_, ?_⟩
  · intro e he
    obtain ⟨-, -, cause, -, -, rfl⟩ := (c.perform_eq_error_iff op e).1 he
    exact ⟨cause, rfl⟩
  · intro hnothing
    have hattempt := attempt_of_not_sent hop hnothing
    refine ⟨hattempt, fun r => by rw [hattempt, Caller.carryOut?], ?_⟩
    rintro d before after rfl
    have hall := performAll_leaveOut hattempt
    refine ⟨hall after, ?_⟩
    have hclose := hall (after ++ [.close])
    rw [← List.cons_append, ← List.append_assoc, ← List.append_assoc] at hclose
    rw [lifetime, lifetime, hclose]
  · intro c' asked hperform hbounds
    rw [c.perform_of_isSending hop] at hperform
    have hmessage := mt (Operation.message?_eq_none_iff c.config hop).1 hbounds
    obtain ⟨kind, m, message, hsome, hencode, hsubmit⟩ := of_sendOperation_eq_ok hperform hmessage
    obtain ⟨rfl, rfl⟩ := Prod.mk.inj hsubmit
    have hne : message ≠ [] := by
      rintro rfl
      cases head?_encode hencode
    exact ⟨kind, m, message, hsome, hencode, c.exists_adds_submit kind hne⟩

/-- A client that was closed and has then filled a bundle to the last octet. -/
def fullClient : Client :=
  (datagramClient.performAll
    [.close, .startBundle, .send .datagram "/x" (.replicate 163 (.int64 0))]).1

theorem perform_adds_one_or_nothing_full :
    fullClient.closed = true ∧ fullClient.bundle.map Bundle.size = some maxPacketSize ∧
    fullClient.perform (.send .datagram "/y" [.blob [1]]) =
      .error (.encoding (.unsupportedTag 'b')) ∧
    fullClient.attempt (.send .datagram "/y" [.blob [1]]) = (fullClient, []) ∧
    fullClient.attempt (.volume .nan) = (fullClient, []) ∧
    ∃ c' asked kind message r', fullClient.perform .load = .ok (c', asked) ∧
      ({ requests := [] } : Caller).carryOut? asked = some r' ∧
      fullClient.Adds { requests := [] } kind message c' r' ∧
      c'.bundle.map Bundle.size = some 40 ∧
      r'.datagram.system.transport.queue.map List.length = [maxPacketSize] := by
  have herror : fullClient.perform (.send .datagram "/y" [.blob [1]]) =
      .error (.encoding (.unsupportedTag 'b')) := by decide +kernel
  obtain ⟨-, hblob, -⟩ := fullClient.perform_adds_one_or_nothing
    (rfl : (Operation.send .datagram "/y" [.blob [1]]).isSending = true)
  obtain ⟨-, hvolume, -⟩ := fullClient.perform_adds_one_or_nothing
    (rfl : (Operation.volume .nan).isSending = true)
  obtain ⟨-, -, hload⟩ := fullClient.perform_adds_one_or_nothing
    (rfl : Operation.load.isSending = true)
  refine ⟨by decide +kernel, by decide +kernel, herror, (hblob (Or.inl ⟨_, herror⟩)).1,
    (hvolume (Or.inr (Or.inl rfl))).1, ?_⟩
  have hsent : (fullClient.perform .load).toOption.any (fun outcome =>
      outcome.1.bundle.map Bundle.size = some 40 ∧
      (({ requests := [] } : Caller).carryOut? outcome.2).map
        (fun r' => r'.datagram.system.transport.queue.map List.length) =
          some [maxPacketSize]) = true := by decide +kernel
  cases hperform : fullClient.perform .load with
  | error e =>
    rw [hperform] at hsent
    cases hsent
  | ok outcome =>
    obtain ⟨c', asked⟩ := outcome
    obtain ⟨kind, m, message, -, -, hadds⟩ := hload c' asked hperform id
    obtain ⟨r', hr', hadded⟩ := hadds { requests := [] } rfl
    rw [hperform] at hsent
    obtain ⟨hsize, hqueue⟩ := of_decide_eq_true hsent
    rw [hr'] at hqueue
    exact ⟨c', asked, kind, message, r', rfl, hr', hadded, hsize, Option.some.inj hqueue⟩

end Client

end OscRemote
