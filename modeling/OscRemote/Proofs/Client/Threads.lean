import OscRemote.Client.Threads
import OscRemote.Proofs.Client.Bundling

/-!
# Several threads use a client

Whatever other calls do in between, a call does its deeds in order: what it has submitted is what
the deeds have that it has done so far (`SharedClient.Accords`).  So of the calls that close a
client the first submits the message that unloads the project, if it is to and has got that far, and
no other does.  And whichever call submits a message, it is handed over in the order of the
submissions, alone or in a bundle.

Calls that are made one after the other, each when the one before is over, are what
`Client.performAll` says.
-/

namespace OscRemote

/-- The packets that a deed submits, with their transports: one, or none. -/
def Deed.packets (config : Config) : Deed → List (TransportKind × Octets)
  | .send op => (op.packet? config).toList
  | .startBundle | .endBundle | .ask _ => []

lemma Operation.of_packet? {config : Config} {op : Operation} {kind : TransportKind}
    {message : Octets} (h : op.packet? config = some (kind, message)) :
    ∃ address args, encode address args = .ok message := by
  obtain ⟨⟨kind', m⟩, -, h⟩ := Option.bind_eq_some_iff.1 h
  obtain ⟨packet, hpacket, h⟩ := Option.map_eq_some_iff.1 h
  obtain ⟨-, rfl⟩ := Prod.mk.inj h
  refine ⟨m.address, m.arguments, ?_⟩
  cases hencode : m.encode with
  | ok packet' =>
    rw [hencode] at hpacket
    rw [← Option.some.inj hpacket]
    exact hencode
  | error cause =>
    rw [hencode] at hpacket
    cases hpacket

namespace Client

/-- The message of an operation is submitted if it has a packet. -/
lemma attemptSend_eq (c : Client) (op : Operation) :
    c.attemptSend op =
      match op.packet? c.config with
      | some (kind, message) => c.submit kind message
      | none => (c, []) := by
  unfold attemptSend sendOperation Operation.packet?
  rcases op.message? c.config with _ | ⟨kind, m⟩
  · rfl
  dsimp only [Option.bind_some]
  unfold sendMessage
  cases m.encode with
  | error cause => rfl
  | ok packet => rfl

/-! ## Where no bundle is open -/

/-- The message that unloads the project when the client closes: the first time only, if the
configuration asks for it and the message has an encoding. -/
def unloading (c : Client) : List Request :=
  if !c.closed && c.config.onClose.unload then
    (Operation.unload.packet? c.config).toList.map fun packet => .send packet.1 packet.2
  else []

lemma submit_of_bundle_eq_none {c : Client} (h : c.bundle = none) (kind : TransportKind)
    (message : Octets) : c.submit kind message = (c, [.send kind message]) := by
  cases kind with
  | stream => rfl
  | datagram => simp [submit, h]

/-- Where no bundle is open, a message travels by itself. -/
lemma attemptSend_of_bundle_eq_none {c : Client} (h : c.bundle = none) (op : Operation) :
    c.attemptSend op =
      (c, (op.packet? c.config).toList.map fun packet => .send packet.1 packet.2) := by
  rw [attemptSend_eq]
  rcases op.packet? c.config with _ | ⟨kind, message⟩
  · rfl
  · exact submit_of_bundle_eq_none h kind message

lemma unloadOnClose_of_bundle_eq_none {c : Client} (h : c.bundle = none) :
    c.unloadOnClose = (c, c.unloading) := by
  rw [unloadOnClose, unloading]
  split
  case isTrue => exact attemptSend_of_bundle_eq_none h .unload
  case isFalse => rfl

/-- Closing ends the open bundle first, so that the message that unloads the project travels by
itself, after the bundle. -/
lemma close_eq (c : Client) :
    c.close = ({ c with bundle := none, closed := true },
      c.endBundle.2 ++ c.unloading ++ closeRequests c.config) := by
  have hunload : c.endBundle.1.unloadOnClose = (c.endBundle.1, c.unloading) :=
    unloadOnClose_of_bundle_eq_none rfl
  simp only [close, hunload]
  rfl

end Client

namespace SharedClient

variable {c : Client} {s s' : SharedClient} {m : Move} {ms : List Move} {i : Nat} {k : Call}

/-! ## What a deed changes -/

@[simp] lemma calls_act (s : SharedClient) (i : Nat) (d : Deed) : (s.act i d).calls = s.calls := by
  cases d with
  | send op =>
    rw [act]
    split <;> rfl
  | startBundle | endBundle | ask => rfl

lemma client_act (s : SharedClient) (i : Nat) (d : Deed) :
    (s.act i d).client.config = s.client.config ∧
      (s.act i d).client.closed = s.client.closed := by
  cases d with
  | send op =>
    rw [act]
    split
    case h_1 kind message _ => exact s.client.submit_stays kind message
    case h_2 => exact ⟨rfl, rfl⟩
  | startBundle | endBundle | ask => exact ⟨rfl, rfl⟩

/-- A deed submits the packet that it has. -/
lemma submissions_act (s : SharedClient) (i : Nat) (d : Deed) :
    (s.act i d).submissions = s.submissions ++
      (d.packets s.client.config).map fun x => ⟨i, x.1, x.2⟩ := by
  cases d with
  | send op =>
    rw [act, Deed.packets]
    cases op.packet? s.client.config with
    | none => exact (List.append_nil _).symm
    | some x => rfl
  | startBundle | endBundle | ask => exact (List.append_nil _).symm

lemma submitted_act_self (s : SharedClient) (i : Nat) (d : Deed) :
    (s.act i d).submitted i = s.submitted i ++ d.packets s.client.config := by
  rw [submitted, submissions_act, List.filter_append, List.map_append, List.filter_map]
  simp [submitted, Function.comp_def]

lemma submitted_act_of_ne (s : SharedClient) {i j : Nat} (d : Deed) (h : i ≠ j) :
    (s.act i d).submitted j = s.submitted j := by
  rw [submitted, submissions_act, List.filter_append, List.map_append, List.filter_map]
  simp [submitted, Function.comp_def, h]

/-- The calls are no matter to a deed. -/
lemma act_with_calls (s : SharedClient) (i : Nat) (d : Deed) (calls : List Call) :
    ({ s with calls } : SharedClient).act i d = { s.act i d with calls } := by
  cases d with
  | send op =>
    rw [act, act]
    cases op.packet? s.client.config <;> rfl
  | startBundle | endBundle | ask => rfl

/-- A move begins a call, or takes the next deed of one. -/
lemma of_perform? (h : s.perform? m = some s') :
    (∃ op, m = .begin op ∧ s' = s.begin op) ∨
    ∃ i op d ds, m = .goOn i ∧ s.calls[i]? = some ⟨op, d :: ds⟩ ∧
      s' = ({ s with calls := s.calls.set i ⟨op, ds⟩ } : SharedClient).act i d := by
  cases m with
  | begin op => exact Or.inl ⟨op, rfl, (Option.some.inj h).symm⟩
  | goOn i =>
    rw [perform?] at h
    split at h
    case h_1 op d ds hk => exact Or.inr ⟨i, op, d, ds, rfl, hk, (Option.some.inj h).symm⟩
    case h_2 => cases h

lemma perform?_goOn {op : Operation} {d : Deed} {ds : List Deed}
    (hk : s.calls[i]? = some ⟨op, d :: ds⟩) :
    s.perform? (.goOn i) = some { s.act i d with calls := s.calls.set i ⟨op, ds⟩ } := by
  rw [perform?, hk]
  exact congrArg some (act_with_calls s i d _)

/-- What holds at first and is kept by moves holds after a run. -/
lemma Run.induction {motive : SharedClient → Prop}
    (step : ∀ s m s', s.perform? m = some s' → motive s → motive s')
    (h : Run s ms s') (start : motive s) : motive s' := by
  induction h with
  | nil => exact start
  | cons hperform _ ih => exact ih (step _ _ _ hperform start)

/-! ## What a call has submitted -/

/-- The operations of the calls, in the order in which they were begun. -/
def operations (s : SharedClient) : List Operation := s.calls.map Call.operation

/-- Whether a call to close was begun before this one. -/
def closedBefore (s : SharedClient) (i : Nat) : Bool := (s.operations.take i).contains .close

lemma operations_set {op : Operation} {ds ds' : List Deed} (hk : s.calls[i]? = some ⟨op, ds⟩) :
    (s.calls.set i ⟨op, ds'⟩).map Call.operation = s.operations := by
  have hop : (s.calls.map Call.operation)[i]? = some op := by simp [hk]
  obtain ⟨hlt, hget⟩ := List.getElem?_eq_some_iff.1 hop
  rw [List.map_set, operations]
  conv_lhs => rw [← hget]
  exact List.set_getElem_self hlt

/-- A call that takes its next deed is still a call of the same operation. -/
lemma operations_goOn {op : Operation} {d : Deed} {ds : List Deed}
    (hk : s.calls[i]? = some ⟨op, d :: ds⟩) :
    (({ s with calls := s.calls.set i ⟨op, ds⟩ } : SharedClient).act i d).operations =
      s.operations := by
  rw [operations, calls_act]
  exact operations_set hk

/-- The client remembers whether a call to close was begun, and every call has done its deeds up to
those that are left and has submitted what they have. -/
structure Accords (config : Config) (s : SharedClient) : Prop where
  config_eq : s.client.config = config
  closed : s.client.closed = s.operations.contains .close
  calls : ∀ i k, s.calls[i]? = some k → ∃ done,
    k.operation.deeds config (s.closedBefore i) = done ++ k.deeds ∧
      s.submitted i = done.flatMap (Deed.packets config)
  known : ∀ x ∈ s.submissions, x.call < s.calls.length

lemma accords_start (hclosed : c.closed = false) : Accords c.config { client := c } where
  config_eq := rfl
  closed := hclosed
  calls := nofun
  known := nofun

variable {config : Config}

/-- A call that was not begun yet has submitted nothing. -/
lemma Accords.submitted_eq_nil (h : s.Accords config) : s.submitted s.calls.length = [] := by
  rw [submitted, List.map_eq_nil_iff, List.filter_eq_nil_iff]
  intro x hx
  simpa using Nat.ne_of_lt (h.known x hx)

lemma operations_begin (s : SharedClient) (op : Operation) :
    (s.begin op).operations = s.operations ++ [op] := by
  simp [operations, SharedClient.begin]

lemma length_operations (s : SharedClient) : s.operations.length = s.calls.length :=
  List.length_map ..

/-- A call that is begun has all its deeds before it. -/
lemma Accords.begin (h : s.Accords config) (op : Operation) : (s.begin op).Accords config where
  config_eq := h.config_eq
  closed := by
    rw [operations_begin, List.contains_append, ← h.closed]
    rw [List.contains_cons, List.contains_nil, Bool.or_false, Bool.beq_comm]
    rfl
  calls := by
    intro i k hk
    rw [closedBefore, operations_begin]
    rcases Nat.lt_trichotomy i s.calls.length with hlt | rfl | hlt
    · rw [List.take_append_of_le_length (by rw [length_operations]; omega)]
      rw [SharedClient.begin, List.getElem?_append_left hlt] at hk
      exact h.calls i k hk
    · rw [← length_operations, List.take_left, ← h.closed, length_operations]
      rw [SharedClient.begin, List.getElem?_concat_length] at hk
      obtain rfl := Option.some.inj hk
      refine ⟨[], ?_, h.submitted_eq_nil⟩
      rw [List.nil_append, h.config_eq]
    · rw [SharedClient.begin, List.getElem?_eq_none] at hk
      · cases hk
      · rw [List.length_append, List.length_singleton]
        exact hlt
  known := by
    intro x hx
    have hlt := h.known x hx
    simp only [SharedClient.begin, List.length_append, List.length_singleton]
    omega

/-- A deed that is taken is among those that are done, and submits what it has. -/
lemma Accords.goOn {op : Operation} {d : Deed} {ds : List Deed} (h : s.Accords config)
    (hk : s.calls[i]? = some ⟨op, d :: ds⟩) :
    (({ s with calls := s.calls.set i ⟨op, ds⟩ } : SharedClient).act i d).Accords config where
  config_eq := (client_act _ i d).1.trans h.config_eq
  closed := by rw [operations_goOn hk, (client_act _ i d).2, h.closed]
  calls := by
    intro j k hj
    rw [closedBefore, operations_goOn hk, ← closedBefore]
    rw [calls_act, List.getElem?_set] at hj
    by_cases hij : i = j
    · subst hij
      rw [if_pos rfl] at hj
      split at hj
      case isTrue =>
        obtain rfl := Option.some.inj hj
        obtain ⟨done, hdeeds, hsubmitted⟩ := h.calls i _ hk
        refine ⟨done ++ [d], ?_, ?_⟩
        · rw [List.append_assoc, List.singleton_append, hdeeds]
        · rw [submitted_act_self, h.config_eq, List.flatMap_append, List.flatMap_singleton,
            ← hsubmitted]
          rfl
      case isFalse => cases hj
    · rw [if_neg hij] at hj
      rw [submitted_act_of_ne _ d hij]
      exact h.calls j k hj
  known := by
    intro x hx
    rw [calls_act, List.length_set]
    rw [submissions_act, List.mem_append, List.mem_map] at hx
    rcases hx with hx | ⟨packet, -, rfl⟩
    · exact h.known x hx
    · exact (List.getElem?_eq_some_iff.1 hk).1

lemma Accords.perform? (h : s.Accords config) (hs : s.perform? m = some s') :
    s'.Accords config := by
  obtain ⟨op, rfl, rfl⟩ | ⟨i, op, d, ds, rfl, hk, rfl⟩ := of_perform? hs
  · exact h.begin op
  · exact h.goOn hk

lemma Run.accords (h : Run { client := c } ms s) (hclosed : c.closed = false) :
    s.Accords c.config :=
  h.induction (motive := Accords c.config) (fun _ _ _ hs ha => ha.perform? hs)
    (accords_start hclosed)

/-- Whatever is asked of the transports besides sending, nothing is submitted by it. -/
lemma flatMap_packets_eq_nil {requests : List Request} {ds ds' : List Deed}
    (h : requests.map .ask = ds ++ ds') : ds.flatMap (Deed.packets config) = [] := by
  rw [List.flatMap_eq_nil_iff]
  intro d hd
  obtain ⟨r, -, rfl⟩ := List.mem_map.1 (h ▸ List.mem_append_left ds' hd)
  rfl

lemma send_notMem_of_ask {requests : List Request} {op : Operation} {ds ds' : List Deed}
    (h : requests.map .ask = ds ++ ds') : .send op ∉ ds' := by
  intro hmem
  obtain ⟨r, -, hr⟩ := List.mem_map.1 (h ▸ List.mem_append_right ds hmem)
  cases hr

/-- Of the calls to close, only the one that was begun first submits anything: the message that
unloads the project, if it is to and has got so far. -/
lemma Accords.submitted_of_close (h : s.Accords config) (hk : s.calls[i]? = some k)
    (hop : k.operation = .close) :
    s.submitted i =
      if s.closedBefore i = false ∧ config.onClose.unload = true ∧ .send .unload ∉ k.deeds then
        (Operation.unload.packet? config).toList
      else [] := by
  obtain ⟨done, hdeeds, hsubmitted⟩ := h.calls i k hk
  rw [hsubmitted]
  rw [hop, Operation.deeds, List.cons_append] at hdeeds
  obtain ⟨rfl, hleft⟩ | ⟨done, rfl, hafter⟩ := List.cons_eq_append_iff.1 hdeeds
  · -- Nothing is done yet, and so the message is still among the deeds that are left.
    rw [List.flatMap_nil, eq_comm, ite_eq_right_iff]
    rintro ⟨hfirst, hunload, hnot⟩
    simp [hleft, hfirst, hunload] at hnot
  by_cases hunloads : s.closedBefore i = false ∧ config.onClose.unload = true
  · obtain ⟨hfirst, hunload⟩ := hunloads
    simp only [hfirst, hunload, Bool.not_false, Bool.and_self, if_true, List.singleton_append]
      at hafter
    obtain ⟨rfl, hleft⟩ | ⟨done, rfl, hasks⟩ := List.cons_eq_append_iff.1 hafter
    · rw [if_neg (by simp [hleft])]
      rfl
    · rw [if_pos ⟨hfirst, hunload, send_notMem_of_ask hasks⟩]
      rw [List.flatMap_cons, List.flatMap_cons, flatMap_packets_eq_nil hasks]
      exact List.append_nil _
  · have hnot : ¬ (!s.closedBefore i && config.onClose.unload) = true := by simpa using hunloads
    rw [if_neg hnot, List.nil_append] at hafter
    rw [if_neg fun hall => hunloads ⟨hall.1, hall.2.1⟩]
    rw [List.flatMap_cons, flatMap_packets_eq_nil hafter]
    rfl

/-! ## What is handed over -/

/-- The messages that were submitted for one transport, in order. -/
def messagesFor (s : SharedClient) (kind : TransportKind) : List Octets :=
  (s.submissions.filter (·.kind = kind)).map Submission.message

/-- The messages among requests for the stream, in order. -/
def streamMessages (requests : List Request) : List Octets :=
  requests.filterMap fun
    | .send .stream message => some message
    | _ => none

lemma streamMessages_append (first second : List Request) :
    streamMessages (first ++ second) = streamMessages first ++ streamMessages second :=
  List.filterMap_append

lemma streamMessages_map_send (packets : List Octets) :
    streamMessages (packets.map (.send .datagram)) = [] := by
  simp [streamMessages, List.filterMap_map]

/-- The transports were asked to send what was submitted: the stream every message by itself, the
other with some in bundles, the last of which may still be open. -/
structure HandsOver (s : SharedClient) : Prop where
  datagram : s.client.Accounts (s.messagesFor .datagram) (datagrams s.requests)
  stream : streamMessages s.requests = s.messagesFor .stream

lemma streamMessages_submit_datagram (c : Client) (message : Octets) :
    streamMessages (c.submit .datagram message).2 = [] := by
  cases hbundle : c.bundle with
  | none => simpa [Client.submit, hbundle] using streamMessages_map_send [message]
  | some b =>
    simpa [Client.submit, hbundle] using streamMessages_map_send (b.append message).2.toList

/-- Whatever is asked for without a submission is nothing new to the stream. -/
lemma HandsOver.ask {outcome : Client × List Request} (h : s.HandsOver)
    (haccounts : outcome.1.Accounts (s.messagesFor .datagram)
      (datagrams s.requests ++ datagrams outcome.2))
    (hstream : streamMessages outcome.2 = []) : (s.ask outcome).HandsOver where
  datagram := by
    rw [SharedClient.ask, datagrams_append]
    exact haccounts
  stream := by
    rw [SharedClient.ask, streamMessages_append, hstream, List.append_nil]
    exact h.stream

lemma HandsOver.send (h : s.HandsOver) (i : Nat) (op : Operation) :
    (s.act i (.send op)).HandsOver := by
  rw [act]
  split
  case h_2 => exact h
  case h_1 kind message hpacket =>
    cases kind with
    | stream =>
      refine ⟨?_, ?_⟩
      · have hdatagram : (s.client.submit .stream message).1.Accounts _ _ :=
          h.datagram.submit_stream
        simpa [SharedClient.ask, messagesFor] using hdatagram
      · have hsubmit : s.client.submit .stream message = (s.client, [.send .stream message]) := rfl
        have hstream := h.stream
        simp [SharedClient.ask, hsubmit, streamMessages, messagesFor] at hstream ⊢
        exact hstream
    | datagram =>
      have hne : message ≠ [] := by
        rintro rfl
        obtain ⟨address, args, hencode⟩ := Operation.of_packet? hpacket
        cases head?_encode hencode
      refine ⟨?_, ?_⟩
      · have hdatagram := h.datagram.submit_datagram hne
        simpa [SharedClient.ask, messagesFor] using hdatagram
      · have hstream := h.stream
        simpa [SharedClient.ask, streamMessages_append, streamMessages_submit_datagram,
          messagesFor] using hstream

/-- A deed hands over what it submits, as long as it asks for nothing to be sent besides. -/
lemma HandsOver.act {d : Deed} (h : s.HandsOver)
    (hd : ∀ kind message, d ≠ .ask (.send kind message)) : (s.act i d).HandsOver := by
  cases d with
  | send op => exact h.send i op
  | startBundle => exact h.ask (h.datagram.endBundle.openBundle rfl) (streamMessages_map_send _)
  | endBundle => exact h.ask h.datagram.endBundle (streamMessages_map_send _)
  | ask r =>
    have hdatagram := h.datagram
    rw [← List.append_nil (datagrams s.requests)] at hdatagram
    cases r with
    | send kind message => exact absurd rfl (hd kind message)
    | drain kind limit => exact h.ask hdatagram rfl
    | close kind => exact h.ask hdatagram rfl

/-- Calls ask for nothing to be sent but what they submit. -/
lemma ask_send_notMem_deeds (config : Config) (closed : Bool) (op : Operation)
    (kind : TransportKind) (message : Octets) :
    .ask (.send kind message) ∉ op.deeds config closed := by
  cases op with
  | close =>
    unfold Operation.deeds Client.closeRequests
    cases config.onClose.policy <;> cases closed <;> cases config.onClose.unload <;> simp
  | load | unload | mute | systemMute | volume | systemVolume | send | startBundle | endBundle
  | drain => simp [Operation.deeds]

/-- However the calls of several threads take turns, the transports are asked to send what was
submitted, in order: the stream each message by itself, and the other in datagrams and the open
bundle. -/
theorem Run.handsOver (h : Run { client := c } ms s) (hclosed : c.closed = false)
    (hbundle : c.bundle = none) : s.HandsOver := by
  refine (h.induction (motive := fun s => s.Accords c.config ∧ s.HandsOver) ?_ ?_).2
  · rintro s m s' hs ⟨haccords, hover⟩
    refine ⟨haccords.perform? hs, ?_⟩
    obtain ⟨op, rfl, rfl⟩ | ⟨i, op, d, ds, rfl, hk, rfl⟩ := of_perform? hs
    · exact ⟨hover.datagram, hover.stream⟩
    · obtain ⟨done, hdeeds, -⟩ := haccords.calls i _ hk
      have hover' : ({ s with calls := s.calls.set i ⟨op, ds⟩ } : SharedClient).HandsOver :=
        ⟨hover.datagram, hover.stream⟩
      refine hover'.act ?_
      rintro kind message rfl
      refine ask_send_notMem_deeds c.config (s.closedBefore i) op kind message ?_
      rw [hdeeds]
      simp
  · exact ⟨accords_start hclosed, Client.accounts_of_eq_none hbundle, rfl⟩

/-! ## One call after the other -/

lemma foldl_act_with_calls (s : SharedClient) (i : Nat) (ds : List Deed) (calls : List Call) :
    ds.foldl (fun s d => s.act i d) { s with calls } =
      { ds.foldl (fun s d => s.act i d) s with calls } := by
  induction ds generalizing s with
  | nil => rfl
  | cons d ds ih => rw [List.foldl_cons, act_with_calls, ih, List.foldl_cons]

/-- A call that nothing interrupts takes its deeds in order. -/
lemma exists_run_deeds {op : Operation} {ds : List Deed} (hk : s.calls[i]? = some ⟨op, ds⟩) :
    ∃ ms, Run s ms { ds.foldl (fun s d => s.act i d) s with calls := s.calls.set i ⟨op, []⟩ } := by
  induction ds generalizing s with
  | nil =>
    obtain ⟨hlt, hget⟩ := List.getElem?_eq_some_iff.1 hk
    rw [← hget, List.set_getElem_self]
    exact ⟨[], Run.nil s⟩
  | cons d ds ih =>
    have hlt := (List.getElem?_eq_some_iff.1 hk).1
    have hrest : ({ s.act i d with calls := s.calls.set i ⟨op, ds⟩ } : SharedClient).calls[i]? =
        some ⟨op, ds⟩ := List.getElem?_set_self hlt
    obtain ⟨ms, hms⟩ := ih hrest
    rw [foldl_act_with_calls, List.set_set] at hms
    exact ⟨.goOn i :: ms, Run.cons (perform?_goOn hk) hms⟩

lemma foldl_act_ask (s : SharedClient) (i : Nat) (requests : List Request) :
    (requests.map .ask).foldl (fun s d => s.act i d) s =
      { s with requests := s.requests ++ requests } := by
  induction requests generalizing s with
  | nil => simp
  | cons r requests ih =>
    rw [List.map_cons, List.foldl_cons, ih]
    simp [act, ask]

/-- A deed that submits the message of an operation does what the client does with it. -/
lemma act_send (s : SharedClient) (i : Nat) (op : Operation) :
    (s.act i (.send op)).client = (s.client.attemptSend op).1 ∧
      (s.act i (.send op)).requests = s.requests ++ (s.client.attemptSend op).2 := by
  rw [act, Client.attemptSend_eq]
  cases op.packet? s.client.config with
  | none => exact ⟨rfl, (List.append_nil _).symm⟩
  | some packet => exact ⟨rfl, rfl⟩

/-- The deeds of a call, one right after the other, are the operation. -/
lemma foldl_act_deeds (s : SharedClient) (i : Nat) (op : Operation) :
    ((op.deeds s.client.config s.client.closed).foldl (fun s d => s.act i d) (s.begin op)).client =
        (s.client.attempt op).1 ∧
      ((op.deeds s.client.config s.client.closed).foldl (fun s d => s.act i d)
        (s.begin op)).requests = s.requests ++ (s.client.attempt op).2 := by
  by_cases hclose : op = .close
  · subst hclose
    have hattempt : s.client.attempt .close = s.client.close := rfl
    have hclient : ((s.begin .close).act i .endBundle).client =
        { s.client with bundle := none, closed := true } := by
      simp [act, ask, begin, Client.endBundle]
    have hrequests : ((s.begin .close).act i .endBundle).requests =
        s.requests ++ s.client.endBundle.2 := rfl
    rw [Operation.deeds, List.cons_append, List.foldl_cons, List.foldl_append, foldl_act_ask,
      hattempt, Client.close_eq, Client.unloading]
    split
    case isTrue =>
      obtain ⟨hsent, hasked⟩ := ((s.begin .close).act i .endBundle).act_send i .unload
      rw [Client.attemptSend_of_bundle_eq_none (by rw [hclient])] at hsent hasked
      simp [List.foldl_cons, hsent, hasked, hclient, hrequests]
    case isFalse => simp [hclient, hrequests]
  · have hbegin : s.begin op = { s with calls := (s.begin op).calls } := by
      rw [SharedClient.begin, beq_false_of_ne hclose, Bool.or_false]
    rw [hbegin, foldl_act_with_calls]
    cases op with
    | startBundle | endBundle => exact ⟨rfl, rfl⟩
    | drain => exact ⟨rfl, List.append_assoc ..⟩
    | close => exact absurd rfl hclose
    | load | unload | mute | systemMute | volume | systemVolume | send => exact s.act_send i _

lemma Run.append {s₁ s₂ : SharedClient} {ms' : List Move} (h : Run s ms s₁)
    (h' : Run s₁ ms' s₂) : Run s (ms ++ ms') s₂ := by
  induction h with
  | nil => exact h'
  | cons hperform _ ih => exact Run.cons hperform (ih h')

/-- A call that nothing interrupts is the operation. -/
lemma exists_run_attempt (s : SharedClient) (op : Operation) :
    ∃ ms s', Run s ms s' ∧ s'.client = (s.client.attempt op).1 ∧
      s'.requests = s.requests ++ (s.client.attempt op).2 ∧ s'.calls = s.calls ++ [⟨op, []⟩] := by
  have hk : (s.begin op).calls[s.calls.length]? =
      some ⟨op, op.deeds s.client.config s.client.closed⟩ := List.getElem?_concat_length
  obtain ⟨ms, hms⟩ := exists_run_deeds hk
  obtain ⟨hclient, hrequests⟩ := s.foldl_act_deeds s.calls.length op
  refine ⟨.begin op :: ms, _, Run.cons rfl hms, hclient, hrequests, ?_⟩
  simp [SharedClient.begin]

lemma exists_run_performAll_from (s : SharedClient) (ops : List Operation) :
    ∃ ms s', Run s ms s' ∧ s'.client = (s.client.performAll ops).1 ∧
      s'.requests = s.requests ++ (s.client.performAll ops).2 ∧
      s'.calls = s.calls ++ ops.map (⟨·, []⟩) := by
  induction ops generalizing s with
  | nil => exact ⟨[], s, Run.nil s, rfl, (List.append_nil _).symm, (List.append_nil _).symm⟩
  | cons op ops ih =>
    obtain ⟨first, s₁, hfirst, hclient₁, hrequests₁, hcalls₁⟩ := s.exists_run_attempt op
    obtain ⟨rest, s₂, hrest, hclient₂, hrequests₂, hcalls₂⟩ := ih s₁
    rw [hclient₁] at hclient₂ hrequests₂
    refine ⟨first ++ rest, s₂, hfirst.append hrest, hclient₂, ?_, ?_⟩
    · rw [hrequests₂, hrequests₁, Client.performAll_cons, List.append_assoc]
    · rw [hcalls₂, hcalls₁, List.append_assoc]
      rfl

/-- Calls that are made one after the other, each when the one before is over, are what is said of a
client that one thread uses. -/
theorem exists_run_performAll (c : Client) (ops : List Operation) :
    ∃ ms s, Run { client := c } ms s ∧ s.client = (c.performAll ops).1 ∧
      s.requests = (c.performAll ops).2 ∧ s.calls = ops.map (⟨·, []⟩) := by
  obtain ⟨ms, s, hrun, hclient, hrequests, hcalls⟩ :=
    exists_run_performAll_from { client := c } ops
  exact ⟨ms, s, hrun, hclient, hrequests, hcalls⟩

end SharedClient

end OscRemote
