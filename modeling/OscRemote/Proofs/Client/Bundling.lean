import Mathlib.Data.List.Basic
import OscRemote.Client.Basic
import OscRemote.Proofs.Datagram

/-!
# Bundling changes nothing but the datagrams

An operation submits the same message whether a bundle is open or not; what differs is the datagram
in which the message travels.  So a run of a client is accounted for like the appending of messages
to one bundle: the messages that were submitted are those of the datagrams handed over so far,
followed by those of the open bundle (`Client.Accounts`).  There is a lemma for each way to touch
the open bundle, `Accounts.attempt` puts them together for one operation, and a run is an induction
over its operations.

What an operation submits is said without a bundle (`Operation.submitted`): it depends on the
configuration, and for closing on whether the client was closed before.
-/

namespace OscRemote

/-! ## What operations submit -/

namespace Operation

/-- The message that an operation has for datagrams, if it can be encoded. -/
def datagram? (config : Config) (op : Operation) : Option Octets :=
  match op.message? config with
  | some (.datagram, m) => m.encode.toOption
  | _ => none

/-- The messages that an operation submits for datagrams.  Closing submits the one that unloads the
project, the first time and if the configuration asks for it. -/
def submitted (config : Config) (closed : Bool) : Operation → List Octets
  | close =>
    if !closed && config.onClose.unload then (unload.datagram? config).toList else []
  | op => (op.datagram? config).toList

/-- The messages that operations submit for datagrams, in order. -/
def submittedAll (config : Config) (closed : Bool) : List Operation → List Octets
  | [] => []
  | op :: ops => op.submitted config closed ++ submittedAll config (closed || op == close) ops

variable {config : Config} {closed : Bool} {op : Operation} {ops : List Operation}
  {message : Octets}

lemma of_datagram? (h : op.datagram? config = some message) :
    ∃ address args, encode address args = .ok message := by
  unfold datagram? at h
  split at h
  case h_1 m _ =>
    refine ⟨m.address, m.arguments, ?_⟩
    cases hencode : m.encode with
    | ok packet =>
      rw [hencode] at h
      rw [← Option.some.inj h]
      exact hencode
    | error cause =>
      rw [hencode] at h
      cases h
  case h_2 => cases h

lemma of_mem_submitted (h : message ∈ op.submitted config closed) :
    ∃ address args, encode address args = .ok message := by
  unfold submitted at h
  split at h
  case h_1 =>
    split at h
    · exact of_datagram? (Option.mem_toList.1 h)
    · cases h
  case h_2 => exact of_datagram? (Option.mem_toList.1 h)

/-- Whatever is submitted was encoded. -/
lemma of_mem_submittedAll (h : message ∈ submittedAll config closed ops) :
    ∃ address args, encode address args = .ok message := by
  induction ops generalizing closed with
  | nil => cases h
  | cons op ops ih =>
    rcases List.mem_append.1 h with h | h
    · exact of_mem_submitted h
    · exact ih h

end Operation

/-! ## What is handed over -/

/-- The datagrams among requests, in order. -/
def datagrams (requests : List Request) : List Octets :=
  requests.filterMap fun
    | .send .datagram packet => some packet
    | _ => none

@[simp] lemma datagrams_nil : datagrams [] = [] := rfl

@[simp] lemma datagrams_append (first second : List Request) :
    datagrams (first ++ second) = datagrams first ++ datagrams second := List.filterMap_append

@[simp] lemma datagrams_map_send (packets : List Octets) :
    datagrams (packets.map (.send .datagram)) = packets := by
  simp [datagrams, List.filterMap_map]

lemma datagrams_closeRequests (config : Config) : datagrams (Client.closeRequests config) = [] := by
  unfold Client.closeRequests
  cases config.onClose.policy <;> rfl

namespace Client

variable {c : Client} {messages sent held : List Octets} {message : Octets}

/-- The open bundle has these messages; there are none if no bundle is open. -/
def Collects (c : Client) (held : List Octets) : Prop :=
  match c.bundle with
  | none => held = []
  | some b => b.Holds maxPacketSize held

lemma collects_of_eq_none (h : c.bundle = none) : c.Collects held ↔ held = [] := by
  unfold Collects
  rw [h]

lemma collects_of_eq_some {b : Bundle} (h : c.bundle = some b) :
    c.Collects held ↔ b.Holds maxPacketSize held := by
  unfold Collects
  rw [h]

/-- Where messages are that were submitted: in the datagrams that were handed over, and the last of
them in the open bundle. -/
def Accounts (c : Client) (messages sent : List Octets) : Prop :=
  ∃ (loads : List Datagram) (held : List Octets), sent = loads.map Datagram.octets ∧
    (∀ load ∈ loads, load.IsLoad) ∧ c.Collects held ∧
    loads.flatMap Datagram.messages ++ held = messages

lemma accounts_of_eq_none (h : c.bundle = none) : c.Accounts [] [] :=
  ⟨[], [], rfl, List.forall_mem_nil _, (collects_of_eq_none h).2 rfl, rfl⟩

/-- Bundles are handed over behind the datagrams that were handed over before. -/
lemma accounts_of_bundles {loads : List Datagram} {groups : List (List Octets)}
    (hloads : ∀ load ∈ loads, load.IsLoad)
    (hgroups : ∀ group ∈ groups, Bundle.IsLoad maxPacketSize group) (hheld : c.Collects held) :
    c.Accounts (loads.flatMap Datagram.messages ++ (groups.flatten ++ held))
      (loads.map Datagram.octets ++ groups.map Bundle.packet) := by
  refine ⟨loads ++ groups.map .bundle, held, ?_, ?_, hheld, ?_⟩
  · simp [Function.comp_def, Datagram.octets]
  · refine List.forall_mem_append.2 ⟨hloads, ?_⟩
    intro load hload
    obtain ⟨group, hgroup, rfl⟩ := List.mem_map.1 hload
    exact hgroups group hgroup
  · have hmessages : (groups.map Datagram.bundle).flatMap Datagram.messages = groups.flatten := by
      rw [List.flatMap_map, List.flatten_eq_flatMap]
      rfl
    rw [List.flatMap_append, hmessages, List.append_assoc]

/-! ## Steps -/

/-- A message goes to the open bundle, which may be handed over before, or by itself. -/
lemma Accounts.submit_datagram (h : c.Accounts messages sent) (hne : message ≠ []) :
    (c.submit .datagram message).1.Accounts (messages ++ [message])
      (sent ++ datagrams (c.submit .datagram message).2) := by
  obtain ⟨loads, held, rfl, hloads, hheld, rfl⟩ := h
  cases hbundle : c.bundle with
  | none =>
    obtain rfl := (collects_of_eq_none hbundle).1 hheld
    simp only [submit, hbundle]
    refine ⟨loads ++ [.plain message], [], ?_, ?_, hheld, ?_⟩
    · simp [datagrams, Datagram.octets]
    · exact List.forall_mem_append.2 ⟨hloads, List.forall_mem_singleton.2 trivial⟩
    · simp [Datagram.messages]
  | some b =>
    rw [collects_of_eq_some hbundle] at hheld
    have hfilter : [message].filter (!·.isEmpty) = [message] := by simpa using hne
    obtain ⟨groups, held', hsent, hgroups, hb, hflatten⟩ := hheld.packed.append message
    rw [List.nil_append] at hsent
    rw [hfilter] at hflatten
    simp only [submit, hbundle, datagrams_map_send]
    rw [hsent, List.append_assoc, ← hflatten]
    exact accounts_of_bundles hloads hgroups hb

/-- A message for the stream leaves the datagrams and the open bundle alone. -/
lemma Accounts.submit_stream (h : c.Accounts messages sent) :
    (c.submit .stream message).1.Accounts messages
      (sent ++ datagrams (c.submit .stream message).2) := by
  have hsubmit : c.submit .stream message = (c, [.send .stream message]) := rfl
  rw [hsubmit]
  simpa [datagrams] using h

/-- Ending the open bundle hands it over, unless it has no message. -/
lemma Accounts.endBundle (h : c.Accounts messages sent) :
    c.endBundle.1.Accounts messages (sent ++ datagrams c.endBundle.2) := by
  obtain ⟨loads, held, rfl, hloads, hheld, rfl⟩ := h
  unfold Client.endBundle
  rw [datagrams_map_send]
  cases hbundle : c.bundle with
  | none =>
    obtain rfl := (collects_of_eq_none hbundle).1 hheld
    refine ⟨loads, [], ?_, hloads, rfl, rfl⟩
    simp
  | some b =>
    rw [collects_of_eq_some hbundle] at hheld
    obtain ⟨groups, hpackets, hgroups, hflatten⟩ := hheld.packed.close
    rw [List.nil_append] at hpackets
    rw [Option.bind_some, hpackets, ← hflatten, ← List.append_nil groups.flatten]
    exact accounts_of_bundles hloads hgroups rfl

/-- What becomes of a client if it tries to send the message of an operation, and what it asks
for. -/
def attemptSend (c : Client) (op : Operation) : Client × List Request :=
  (c.sendOperation op).toOption.getD (c, [])

/-- The message of an operation is submitted if it has an encoding, and else nothing happens. -/
lemma Accounts.attemptSend (h : c.Accounts messages sent) (op : Operation) :
    (c.attemptSend op).1.Accounts (messages ++ (op.datagram? c.config).toList)
      (sent ++ datagrams (c.attemptSend op).2) := by
  have hnone : c.Accounts (messages ++ []) (sent ++ datagrams []) := by simpa using h
  unfold Client.attemptSend sendOperation Operation.datagram?
  rcases op.message? c.config with _ | ⟨kind, m⟩
  · exact hnone
  cases kind with
  | stream =>
    dsimp only
    unfold sendMessage
    cases m.encode with
    | error cause => exact hnone
    | ok packet =>
      rw [← List.append_nil messages] at h
      exact h.submit_stream
  | datagram =>
    dsimp only
    unfold sendMessage
    cases hencode : m.encode with
    | error cause => exact hnone
    | ok packet =>
      have hne : packet ≠ [] := by
        rintro rfl
        cases head?_encode hencode
      exact h.submit_datagram hne

lemma Accounts.unloadOnClose (h : c.Accounts messages sent) :
    c.unloadOnClose.1.Accounts (messages ++ Operation.close.submitted c.config c.closed)
      (sent ++ datagrams c.unloadOnClose.2) := by
  unfold Client.unloadOnClose Operation.submitted
  dsimp only
  split
  case isTrue => exact h.attemptSend .unload
  case isFalse => simpa using h

lemma Accounts.close (h : c.Accounts messages sent) :
    c.close.1.Accounts (messages ++ Operation.close.submitted c.config c.closed)
      (sent ++ datagrams c.close.2) := by
  have hclose := h.endBundle.unloadOnClose
  unfold Client.close
  simp only [datagrams_append, datagrams_closeRequests, List.append_nil]
  rw [← List.append_assoc]
  exact hclose

/-- A bundle that is opened where none is open has no message. -/
lemma Accounts.openBundle (h : c.Accounts messages sent) (hnone : c.bundle = none) :
    ({ c with bundle := some {} } : Client).Accounts messages sent := by
  obtain ⟨loads, held, rfl, hloads, hheld, rfl⟩ := h
  obtain rfl := (collects_of_eq_none hnone).1 hheld
  exact ⟨loads, [], rfl, hloads, Bundle.holds_open maxPacketSize, rfl⟩

/-- Besides bundles, draining and closing there are only operations that send their message. -/
lemma perform_cases (op : Operation) :
    op = .startBundle ∨ op = .endBundle ∨ op = .drain ∨ op = .close ∨
    (op ≠ .close ∧ (∀ c : Client, c.perform op = c.sendOperation op) ∧
      ∀ config closed, op.submitted config closed = (op.datagram? config).toList) := by
  cases op with
  | startBundle => exact Or.inl rfl
  | endBundle => exact Or.inr (Or.inl rfl)
  | drain => exact Or.inr (Or.inr (Or.inl rfl))
  | close => exact Or.inr (Or.inr (Or.inr (Or.inl rfl)))
  | load | unload | mute | systemMute | volume | systemVolume | send =>
    refine Or.inr (Or.inr (Or.inr (Or.inr ⟨?_, fun _ => rfl, fun _ _ => rfl⟩)))
    intro h
    cases h

lemma sendOperation_eq_error_iff (c : Client) (op : Operation) (e : ClientError) :
    c.sendOperation op = .error e ↔ ∃ kind m cause,
      op.message? c.config = some (kind, m) ∧ m.encode = .error cause ∧ e = .encoding cause := by
  unfold sendOperation
  constructor
  · intro h
    split at h
    case h_1 kind m hmessage =>
      unfold sendMessage at h
      cases hencode : m.encode with
      | ok packet =>
        rw [hencode] at h
        cases h
      | error cause =>
        rw [hencode] at h
        exact ⟨kind, m, cause, hmessage, hencode, (Except.error.inj h).symm⟩
    case h_2 => cases h
  · rintro ⟨kind, m, cause, hmessage, hencode, rfl⟩
    rw [hmessage]
    dsimp only
    rw [sendMessage, hencode]
    rfl

/-- An operation fails only because its message has no encoding; so the messages that are submitted
are those of the operations that succeed. -/
theorem perform_eq_error_iff (c : Client) (op : Operation) (e : ClientError) :
    c.perform op = .error e ↔ ∃ kind m cause,
      op.message? c.config = some (kind, m) ∧ m.encode = .error cause ∧ e = .encoding cause := by
  rw [← sendOperation_eq_error_iff]
  obtain rfl | rfl | rfl | rfl | ⟨-, hperform, -⟩ := perform_cases op
  · exact iff_of_false (by rintro ⟨⟩) (by rintro ⟨⟩)
  · exact iff_of_false (by rintro ⟨⟩) (by rintro ⟨⟩)
  · exact iff_of_false (by rintro ⟨⟩) (by rintro ⟨⟩)
  · exact iff_of_false (by rintro ⟨⟩) (by rintro ⟨⟩)
  · rw [hperform]

/-- What becomes of a client if an operation is attempted, and what it asks for. -/
def attempt (c : Client) (op : Operation) : Client × List Request :=
  (c.perform op).toOption.getD (c, [])

/-- One operation keeps account of every message, whether it succeeds or fails. -/
lemma Accounts.attempt (h : c.Accounts messages sent) (op : Operation) :
    (c.attempt op).1.Accounts (messages ++ op.submitted c.config c.closed)
      (sent ++ datagrams (c.attempt op).2) := by
  obtain rfl | rfl | rfl | rfl | ⟨-, hperform, hsubmitted⟩ := perform_cases op
  · have hopen := h.endBundle.openBundle rfl
    rw [← List.append_nil messages] at hopen
    exact hopen
  · have hend := h.endBundle
    rw [← List.append_nil messages] at hend
    exact hend
  · rw [← List.append_nil messages, ← List.append_nil sent] at h
    exact h
  · exact h.close
  · rw [Client.attempt, hperform, hsubmitted]
    exact h.attemptSend op

/-! ## What stays -/

lemma submit_stays (c : Client) (kind : TransportKind) (message : Octets) :
    (c.submit kind message).1.config = c.config ∧ (c.submit kind message).1.closed = c.closed := by
  cases kind with
  | stream => exact ⟨rfl, rfl⟩
  | datagram => cases hbundle : c.bundle <;> simp [submit, hbundle]

lemma attemptSend_stays (c : Client) (op : Operation) :
    (c.attemptSend op).1.config = c.config ∧ (c.attemptSend op).1.closed = c.closed := by
  unfold attemptSend sendOperation
  rcases op.message? c.config with _ | ⟨kind, m⟩
  · exact ⟨rfl, rfl⟩
  dsimp only
  unfold sendMessage
  cases m.encode with
  | error cause => exact ⟨rfl, rfl⟩
  | ok packet => exact c.submit_stays kind packet

lemma config_unloadOnClose (c : Client) : c.unloadOnClose.1.config = c.config := by
  unfold Client.unloadOnClose
  split
  case isTrue => exact (c.attemptSend_stays .unload).1
  case isFalse => rfl

/-- No operation changes the configuration, and it is remembered only whether one closed. -/
lemma attempt_stays (c : Client) (op : Operation) :
    (c.attempt op).1.config = c.config ∧ (c.attempt op).1.closed = (c.closed || op == .close) := by
  obtain rfl | rfl | rfl | rfl | ⟨hne, hperform, -⟩ := perform_cases op
  · exact ⟨rfl, (Bool.or_false _).symm⟩
  · exact ⟨rfl, (Bool.or_false _).symm⟩
  · exact ⟨rfl, (Bool.or_false _).symm⟩
  · exact ⟨config_unloadOnClose c.endBundle.1, (Bool.or_true _).symm⟩
  · rw [attempt, hperform, beq_false_of_ne hne, Bool.or_false]
    exact c.attemptSend_stays op

/-! ## Runs -/

lemma performAll_cons (c : Client) (op : Operation) (ops : List Operation) :
    c.performAll (op :: ops) = (((c.attempt op).1.performAll ops).1,
      (c.attempt op).2 ++ ((c.attempt op).1.performAll ops).2) := rfl

/-- A run keeps account of every message. -/
lemma Accounts.performAll (h : c.Accounts messages sent) (ops : List Operation) :
    (c.performAll ops).1.Accounts (messages ++ Operation.submittedAll c.config c.closed ops)
      (sent ++ datagrams (c.performAll ops).2) := by
  induction ops generalizing c messages sent with
  | nil =>
    rw [← List.append_nil messages, ← List.append_nil sent] at h
    exact h
  | cons op ops ih =>
    have hall := ih (h.attempt op)
    rw [(c.attempt_stays op).1, (c.attempt_stays op).2, List.append_assoc, List.append_assoc]
      at hall
    rw [performAll_cons, datagrams_append]
    exact hall

/-- The messages of the open bundle, as they would be read from its packet. -/
def pending (c : Client) : List Octets :=
  (c.bundle.bind fun b => Bundle.entries? b.buffer).getD []

lemma Collects.pending_eq (h : c.Collects held)
    (hheld : ∀ message ∈ held, message.length < lengthLimit) : c.pending = held := by
  unfold pending
  cases hbundle : c.bundle with
  | none => exact ((collects_of_eq_none hbundle).1 h).symm
  | some b =>
    rw [collects_of_eq_some hbundle] at h
    rw [Option.bind_some, h.buffer_eq, Bundle.entries?_packet hheld, Option.getD_some]

lemma of_ofConfig {config : Config} (h : ofConfig config = .ok c) :
    c.config = config ∧ c.bundle = none ∧ c.closed = false := by
  unfold ofConfig at h
  split at h
  case h_1 =>
    obtain rfl := Except.ok.inj h
    exact ⟨rfl, rfl, rfl⟩
  case h_2 => cases h

/-- Whatever is done with a client, the datagrams that it hands over and its open bundle carry the
messages that were submitted, in order and nothing else, and every datagram is as it should be. -/
theorem performAll_carries {config : Config} (hc : ofConfig config = .ok c) (ops : List Operation)
    (h : ∀ message ∈ Operation.submittedAll config false ops, message.length < lengthLimit) :
    (datagrams (c.performAll ops).2).flatMap Bundle.carried ++ (c.performAll ops).1.pending =
      Operation.submittedAll config false ops ∧
    ∀ datagram ∈ datagrams (c.performAll ops).2, IsDatagram datagram := by
  obtain ⟨rfl, hbundle, hclosed⟩ := of_ofConfig hc
  have haccounts := (accounts_of_eq_none hbundle).performAll ops
  rw [hclosed, List.nil_append, List.nil_append] at haccounts
  obtain ⟨loads, held, hsent, hloads, hheld, hmessages⟩ := haccounts
  have hall : ∀ message ∈ loads.flatMap Datagram.messages ++ held, IsMessage message := by
    rw [hmessages]
    intro message hm
    exact ⟨Operation.of_mem_submittedAll hm, h message hm⟩
  have hload : ∀ load ∈ loads, ∀ message ∈ load.messages, IsMessage message := by
    intro load hload message hm
    exact hall message (List.mem_append_left _ (List.mem_flatMap_of_mem hload hm))
  have hcarried : (loads.map Datagram.octets).flatMap Bundle.carried =
      loads.flatMap Datagram.messages := by
    rw [List.flatMap_map]
    exact List.flatMap_congr fun load hmem =>
      Datagram.carried_octets fun message hm => hload load hmem message hm
  have hpending : (c.performAll ops).1.pending = held :=
    hheld.pending_eq fun message hm => (hall message (List.mem_append_right _ hm)).2
  rw [hsent]
  refine ⟨?_, ?_⟩
  · rw [hcarried, hpending, hmessages]
  · intro datagram hdatagram
    obtain ⟨load, hmem, rfl⟩ := List.mem_map.1 hdatagram
    exact (hloads load hmem).isDatagram (hload load hmem)

/-- A configuration that has everything travel as datagrams and unloads in the end. -/
def datagramConfig : Config where
  baseAddress := "/P"
  coreTransport := .datagram
  onClose := { unload := true }

/-- A client with this configuration. -/
def datagramClient : Client where
  config := datagramConfig
  isValid := by rfl

/-- A bundle that is opened again with a message in it, a message for the stream, one that has no
encoding, and closing twice with a bundle open. -/
def sampleOperations : List Operation :=
  [.load, .startBundle, .mute true, .send .stream "/s" [], .send .datagram "" [.blob [1]],
    .startBundle, .send .datagram "/x" [.flag true], .send .datagram "/y" [], .close, .close]

theorem performAll_carries_sample :
    ofConfig datagramConfig = .ok datagramClient ∧
    (∀ message ∈ Operation.submittedAll datagramConfig false sampleOperations,
      message.length < lengthLimit) ∧
    (datagrams (datagramClient.performAll sampleOperations).2).map List.length = [20, 52, 48, 20] ∧
    (datagrams (datagramClient.performAll sampleOperations).2).flatMap Bundle.carried ++
      (datagramClient.performAll sampleOperations).1.pending =
        Operation.submittedAll datagramConfig false sampleOperations := by
  have hc : ofConfig datagramConfig = .ok datagramClient := by rfl
  have h : ∀ message ∈ Operation.submittedAll datagramConfig false sampleOperations,
      message.length < lengthLimit := by decide
  refine ⟨hc, h, ?_, (performAll_carries hc sampleOperations h).1⟩
  decide +kernel

end Client

end OscRemote
