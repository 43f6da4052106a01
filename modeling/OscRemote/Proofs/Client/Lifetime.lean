import OscRemote.Proofs.Client.Bundling
import OscRemote.Proofs.Client.Delivery
import OscRemote.Proofs.Client.Progress
import OscRemote.Proofs.Frame

/-!
# What a peer gets from a client

From its first operation until it is gone, a client asks for things that its thread carries
out.  What the operations have for the stream is divided where the client is closed
(`Operation.stretches`), and the same division is found in the requests: an operation asks for its
message to be sent, and closing ends a piece after both transports were waited for.

So if nothing fails, the peer gets one connection for each stretch in which anything was streamed,
with the frames of its messages and nothing else, and it gets the datagrams that the client handed
over.
-/

namespace OscRemote

/-! ## What operations have for the stream -/

namespace Operation

/-- The message that an operation has for the stream, if it can be encoded. -/
def streamMessage? (config : Config) (op : Operation) : Option Octets :=
  match op.message? config with
  | some (.stream, m) => m.encode.toOption
  | _ => none

/-- The messages that an operation submits for the stream.  Closing submits the one that unloads the
project, the first time and if the configuration asks for it. -/
def streamed (config : Config) (closed : Bool) : Operation → List Octets
  | close =>
    if !closed && config.onClose.unload then (unload.streamMessage? config).toList else []
  | op => (op.streamMessage? config).toList

/-- The messages that operations submit for the stream, divided where the client is closed, as it is
in the end.  What closing submits belongs to the stretch that it ends. -/
def stretches (config : Config) (closed : Bool) (held : List Octets) :
    List Operation → List (List Octets)
  | [] => [held ++ close.streamed config closed]
  | op :: ops =>
    if op = close then (held ++ op.streamed config closed) :: stretches config true [] ops
    else stretches config closed (held ++ op.streamed config closed) ops

end Operation

/-! ## Requests -/

lemma requestsTo_map_send (kind : TransportKind) (packets : List Octets) :
    requestsTo kind (packets.map (.send kind)) = packets.map (.send kind) := by
  refine List.filter_eq_self.2 ?_
  intro r hr
  obtain ⟨packet, -, rfl⟩ := List.mem_map.1 hr
  exact decide_eq_true rfl

lemma requestsTo_map_send_of_ne (kind other : TransportKind) (h : other ≠ kind)
    (packets : List Octets) : requestsTo kind (packets.map (.send other)) = [] := by
  refine List.filter_eq_nil_iff.2 ?_
  intro r hr
  obtain ⟨packet, -, rfl⟩ := List.mem_map.1 hr
  exact decide_eq_false h |>.trans_ne Bool.false_ne_true

lemma stretches_map_send (kind : TransportKind) (held packets : List Octets)
    (rest : List Request) :
    stretches held (packets.map (.send kind) ++ rest) = stretches (held ++ packets) rest := by
  induction packets generalizing held with
  | nil => simp
  | cons packet packets ih =>
    rw [List.map_cons, List.cons_append, stretches, ih, List.append_assoc, List.singleton_append]

lemma closesDrained_map_send (kind : TransportKind) (packets : List Octets) {rest : List Request}
    (h : ∀ drained, ClosesDrained drained rest) (drained : Bool) :
    ClosesDrained drained (packets.map (.send kind) ++ rest) := by
  induction packets generalizing drained with
  | nil => exact h drained
  | cons packet packets ih => exact ih false

/-- However the requests for datagrams are divided, the pieces together are the datagrams. -/
lemma flatten_stretches_datagrams (held : List Octets) (requests : List Request) :
    (stretches held (requestsTo .datagram requests)).flatten = held ++ datagrams requests := by
  induction requests generalizing held with
  | nil => simp [stretches]
  | cons r requests ih =>
    cases r with
    | send kind packet =>
      cases kind with
      | stream => exact ih held
      | datagram =>
        have hrest := ih (held ++ [packet])
        rw [List.append_assoc] at hrest
        exact hrest
    | drain kind =>
      cases kind with
      | stream => exact ih held
      | datagram => exact ih held
    | close kind =>
      cases kind with
      | stream => exact ih held
      | datagram =>
        have hrest := ih []
        show held ++ (stretches [] (requestsTo .datagram requests)).flatten = _
        rw [hrest]
        rfl

/-- All that requests ask of one transport is to send something, and of the stream to send these
messages. -/
def SendsTo (kind : TransportKind) (streamed : List Octets) (requests : List Request) : Prop :=
  ∃ packets : List Octets, requestsTo kind requests = packets.map (.send kind) ∧
    (kind = .stream → packets = streamed)

lemma sendsTo_nil (kind : TransportKind) : SendsTo kind [] [] := ⟨[], rfl, fun _ => rfl⟩

lemma SendsTo.append {kind : TransportKind} {streamed streamed' : List Octets}
    {requests requests' : List Request} (h : SendsTo kind streamed requests)
    (h' : SendsTo kind streamed' requests') :
    SendsTo kind (streamed ++ streamed') (requests ++ requests') := by
  obtain ⟨packets, hpackets, hstream⟩ := h
  obtain ⟨packets', hpackets', hstream'⟩ := h'
  refine ⟨packets ++ packets', ?_, ?_⟩
  · rw [requestsTo_append, hpackets, hpackets', List.map_append]
  · intro hkind
    rw [hstream hkind, hstream' hkind]

lemma sendsTo_stream (kind : TransportKind) (packet : Octets) :
    SendsTo kind [packet] [.send .stream packet] := by
  cases kind with
  | stream => exact ⟨[packet], rfl, fun _ => rfl⟩
  | datagram => exact ⟨[], rfl, nofun⟩

/-- Datagrams that are sent are nothing to the stream. -/
lemma sendsTo_datagrams (kind : TransportKind) (packets : List Octets) :
    SendsTo kind [] (packets.map (.send .datagram)) := by
  cases kind with
  | stream =>
    exact ⟨[], requestsTo_map_send_of_ne .stream .datagram nofun packets, fun _ => rfl⟩
  | datagram => exact ⟨packets, requestsTo_map_send .datagram packets, nofun⟩

namespace Client

variable {c : Client}

/-- What an operation asks of one transport besides sending, if closing waits for what was sent. -/
def waits (config : Config) (kind : TransportKind) : Operation → List Request
  | .drain => [.drain kind none]
  | .close => [.drain kind (some config.onClose.drainTimeout), .close kind]
  | _ => []

lemma sendsTo_submit_datagram (c : Client) (kind : TransportKind) (message : Octets) :
    SendsTo kind [] (c.submit .datagram message).2 := by
  cases hbundle : c.bundle with
  | none => simpa [submit, hbundle] using sendsTo_datagrams kind [message]
  | some b => simpa [submit, hbundle] using sendsTo_datagrams kind (b.append message).2.toList

/-- An operation that has a message asks for something to be sent, and of the stream to send the
message. -/
lemma sendsTo_attemptSend (c : Client) (op : Operation) (kind : TransportKind) :
    SendsTo kind (op.streamMessage? c.config).toList (c.attemptSend op).2 := by
  unfold attemptSend sendOperation Operation.streamMessage?
  rcases op.message? c.config with _ | ⟨_ | _, m⟩
  · exact sendsTo_nil kind
  · dsimp only
    unfold sendMessage
    cases m.encode with
    | error cause => exact sendsTo_nil kind
    | ok packet => exact sendsTo_stream kind packet
  · dsimp only
    unfold sendMessage
    cases m.encode with
    | error cause => exact sendsTo_nil kind
    | ok packet => exact c.sendsTo_submit_datagram kind packet

lemma sendsTo_endBundle (c : Client) (kind : TransportKind) :
    SendsTo kind [] c.endBundle.2 :=
  sendsTo_datagrams kind _

lemma sendsTo_unloadOnClose (c : Client) (kind : TransportKind) :
    SendsTo kind (Operation.close.streamed c.config c.closed) c.unloadOnClose.2 := by
  unfold unloadOnClose Operation.streamed
  dsimp only
  split
  case isTrue => exact c.sendsTo_attemptSend .unload kind
  case isFalse => exact sendsTo_nil kind

lemma requestsTo_closeRequests {config : Config} (hpolicy : config.onClose.policy = .drainFirst)
    (kind : TransportKind) : requestsTo kind (closeRequests config) = waits config kind .close := by
  unfold closeRequests
  rw [hpolicy]
  cases kind with
  | stream => rfl
  | datagram => rfl

/-- An operation asks for something to be sent, of the stream what the operation has for it, and
then to wait or to close if the operation is to. -/
lemma requestsTo_attempt (hpolicy : c.config.onClose.policy = .drainFirst) (op : Operation)
    (kind : TransportKind) :
    ∃ packets : List Octets, requestsTo kind (c.attempt op).2 =
        packets.map (.send kind) ++ waits c.config kind op ∧
      (kind = .stream → packets = op.streamed c.config c.closed) := by
  have hsend := c.sendsTo_attemptSend op kind
  cases op with
  | startBundle | endBundle =>
    obtain ⟨packets, hpackets, hstream⟩ := c.sendsTo_endBundle kind
    exact ⟨packets, hpackets.trans (List.append_nil _).symm, hstream⟩
  | drain =>
    refine ⟨[], ?_, fun _ => rfl⟩
    cases kind with
    | stream => rfl
    | datagram => rfl
  | close =>
    have hsends := (c.sendsTo_endBundle kind).append (c.endBundle.1.sendsTo_unloadOnClose kind)
    obtain ⟨packets, hpackets, hstream⟩ := hsends
    have hconfig : (c.endBundle.1.unloadOnClose).1.config = c.config :=
      config_unloadOnClose c.endBundle.1
    refine ⟨packets, ?_, hstream⟩
    show requestsTo kind (c.endBundle.2 ++ c.endBundle.1.unloadOnClose.2 ++
      closeRequests c.endBundle.1.unloadOnClose.1.config) = _
    rw [requestsTo_append, hpackets, hconfig, requestsTo_closeRequests hpolicy]
  | load | unload | mute | systemMute | volume | systemVolume | send =>
    obtain ⟨packets, hpackets, hstream⟩ := hsend
    exact ⟨packets, hpackets.trans (List.append_nil _).symm, hstream⟩

/-! ## Runs of operations -/

lemma stretches_waits {config : Config} {kind : TransportKind} {op : Operation}
    (hop : op ≠ .close) (held : List Octets) (rest : List Request) :
    stretches held (waits config kind op ++ rest) = stretches held rest := by
  cases op with
  | close => exact absurd rfl hop
  | load | unload | mute | systemMute | volume | systemVolume | send | startBundle | endBundle
  | drain => rfl

lemma stretches_waits_close (config : Config) (kind : TransportKind) (held : List Octets)
    (rest : List Request) :
    stretches held (waits config kind .close ++ rest) = held :: stretches [] rest := rfl

/-- While a client is used, the requests for the stream divide its messages as the operations do. -/
lemma stretches_performAll (hpolicy : c.config.onClose.policy = .drainFirst)
    (ops : List Operation) (held : List Octets) {rest : List Request}
    (hrest : nonempty (stretches [] rest) = []) :
    nonempty (stretches held (requestsTo .stream (c.performAll (ops ++ [.close])).2 ++ rest)) =
      nonempty (Operation.stretches c.config c.closed held ops) := by
  induction ops generalizing c held with
  | nil =>
    obtain ⟨packets, hpackets, hstream⟩ := requestsTo_attempt hpolicy .close .stream
    obtain rfl := hstream rfl
    have hall : (c.performAll ([] ++ [.close])).2 = (c.attempt .close).2 := List.append_nil _
    rw [hall, hpackets, List.append_assoc, stretches_map_send, stretches_waits_close,
      Operation.stretches]
    exact nonempty_cons_congr _ hrest
  | cons op ops ih =>
    obtain ⟨packets, hpackets, hstream⟩ := requestsTo_attempt hpolicy op .stream
    obtain rfl := hstream rfl
    obtain ⟨hconfig, hclosed⟩ := c.attempt_stays op
    have hmore := fun held => ih (c := (c.attempt op).1) (by rw [hconfig, hpolicy]) held
    rw [hconfig, hclosed] at hmore
    rw [List.cons_append, performAll_cons, requestsTo_append, hpackets, List.append_assoc,
      List.append_assoc, stretches_map_send, Operation.stretches]
    by_cases hclose : op = .close
    · subst hclose
      rw [beq_self_eq_true, Bool.or_true] at hmore
      rw [if_pos rfl, stretches_waits_close, nonempty_cons_congr _ (hmore [])]
    · rw [beq_false_of_ne hclose, Bool.or_false] at hmore
      rw [if_neg hclose, stretches_waits hclose, hmore]

/-- A client that waits before it closes never closes a transport that is not idle. -/
lemma closesDrained_performAll (hpolicy : c.config.onClose.policy = .drainFirst)
    (ops : List Operation) (kind : TransportKind) {rest : List Request}
    (hrest : ClosesDrained true rest) (drained : Bool) :
    ClosesDrained drained
      (requestsTo kind (c.performAll (ops ++ [.close])).2 ++ rest) := by
  induction ops generalizing c drained with
  | nil =>
    obtain ⟨packets, hpackets, -⟩ := requestsTo_attempt hpolicy .close kind
    have hall : (c.performAll ([] ++ [.close])).2 = (c.attempt .close).2 := List.append_nil _
    rw [hall, hpackets, List.append_assoc]
    refine closesDrained_map_send kind packets ?_ drained
    intro _
    exact ⟨rfl, hrest⟩
  | cons op ops ih =>
    obtain ⟨packets, hpackets, -⟩ := requestsTo_attempt hpolicy op kind
    obtain ⟨hconfig, -⟩ := c.attempt_stays op
    have hmore := fun drained => ih (c := (c.attempt op).1) (by rw [hconfig, hpolicy]) drained
    rw [List.cons_append, performAll_cons, requestsTo_append, hpackets, List.append_assoc,
      List.append_assoc]
    refine closesDrained_map_send kind packets ?_ drained
    intro drained
    cases op with
    | drain => exact hmore true
    | close => exact ⟨rfl, hmore true⟩
    | load | unload | mute | systemMute | volume | systemVolume | send | startBundle | endBundle =>
      exact hmore drained

/-- A transport that goes away is waited for and closed once more. -/
lemma leaveRequests_eq {config : Config} (hpolicy : config.onClose.policy = .drainFirst)
    (kind : TransportKind) :
    (config.transport kind).leaveRequests kind = waits config kind .close := by
  unfold TransportSettings.leaveRequests
  rw [show (config.transport kind).closePolicy = .drainFirst from hpolicy]
  rfl

lemma requestsTo_lifetime (hpolicy : c.config.onClose.policy = .drainFirst)
    (ops : List Operation) (kind : TransportKind) :
    requestsTo kind (c.lifetime ops) =
      requestsTo kind (c.performAll (ops ++ [.close])).2 ++ waits c.config kind .close := by
  unfold lifetime
  rw [leaveRequests_eq hpolicy, leaveRequests_eq hpolicy, requestsTo_append, requestsTo_append,
    List.append_assoc]
  cases kind with
  | stream => rfl
  | datagram => rfl

lemma datagrams_lifetime (hpolicy : c.config.onClose.policy = .drainFirst)
    (ops : List Operation) :
    datagrams (c.lifetime ops) = datagrams (c.performAll (ops ++ [.close])).2 := by
  unfold lifetime
  rw [leaveRequests_eq hpolicy, leaveRequests_eq hpolicy, datagrams_append, datagrams_append,
    List.append_assoc]
  exact List.append_nil _

/-- A client that drains before it closes is used by one thread, from its first operation until it
is gone.  While nothing fails, the thread goes on until it is done, after at most seventeen events
for each request.  Then the peer has got one connection for each stretch between two closings in
which anything was streamed, in order, with the frames of its messages, which are read back as these
messages; and it has got the datagrams that the client handed over.  Nothing else has arrived. -/
theorem lifetime_delivers {config : Config} (hc : ofConfig config = .ok c)
    (hpolicy : config.onClose.policy = .drainFirst) (ops : List Operation)
    (hlength : ∀ stretch ∈ Operation.stretches config false [] ops, ∀ message ∈ stretch,
      message.length < lengthLimit)
    {es : List Event} {r : Caller}
    (h : Caller.Run Caller.Succeeds { requests := c.lifetime ops } es r) :
    es.length ≤ 17 * (c.lifetime ops).length ∧
    (r.IsDone ∨ r.CanGoOn) ∧
    (r.IsDone →
      r.stream.arrivals = Arrival.log (nonempty (Operation.stretches config false [] ops)) ∧
      r.stream.streams = (nonempty (Operation.stretches config false [] ops)).map frames ∧
      r.stream.streams.map Frame.read =
        (nonempty (Operation.stretches config false [] ops)).map (·, []) ∧
      r.datagram.messages = datagrams (c.performAll (ops ++ [.close])).2 ∧
      ∀ w, .interrupted w ∉ r.datagram.arrivals) := by
  obtain ⟨rfl, -, hclosed⟩ := of_ofConfig hc
  have hdrained (kind : TransportKind) :
      ClosesDrained true (requestsTo kind (c.lifetime ops)) := by
    have hleave : ClosesDrained true (waits c.config kind .close) := ⟨rfl, rfl⟩
    rw [requestsTo_lifetime hpolicy]
    exact closesDrained_performAll hpolicy ops kind hleave true
  refine ⟨h.length_le, ?_, ?_⟩
  · by_cases hdone : r.IsDone
    · exact Or.inl hdone
    · exact Or.inr (Caller.canGoOn h.isFounded hdone)
  · intro hdone
    have hstream : r.stream.arrivals =
        Arrival.log (nonempty (Operation.stretches c.config false [] ops)) := by
      have hleave : nonempty (stretches [] (waits c.config .stream .close)) = [] := rfl
      rw [← hclosed, ← stretches_performAll hpolicy ops [] hleave, ← requestsTo_lifetime hpolicy]
      exact h.arrivals_eq (hdrained .stream) hdone
    have hstreams := Outlet.streams_of_log hstream
    have hdatagram := h.arrivals_eq (hdrained .datagram) hdone
    refine ⟨hstream, hstreams, ?_, ?_, Outlet.not_interrupted_of_log hdatagram⟩
    · rw [hstreams, List.map_map]
      refine List.map_congr_left ?_
      intro stretch hmem
      exact Frame.read_frames (hlength stretch (List.mem_of_mem_filter hmem))
    · have hmessages : r.datagram.messages = _ := Outlet.messages_of_log hdatagram
      rw [hmessages, nonempty, List.flatten_filter_not_isEmpty, flatten_stretches_datagrams,
        List.nil_append, datagrams_lifetime hpolicy]

/-- A configuration that has everything travel on the stream and unloads in the end. -/
def streamConfig : Config where
  baseAddress := "/P"
  onClose := { unload := true }

/-- A client with this configuration. -/
def streamClient : Client where
  config := streamConfig
  isValid := by rfl

/-- A message for the stream before the client is closed; one in a bundle, one for the stream and
one that has no encoding before it is closed again; and waiting where there is nothing to wait for.
-/
def reopened : List Operation :=
  [.send .stream "/a" [], .close, .startBundle, .send .datagram "/b" [.flag true], .mute true,
    .send .stream "" [.blob [1]], .close, .drain]

theorem lifetime_delivers_reopened : ∃ es r,
    Caller.Run Caller.Succeeds { requests := streamClient.lifetime reopened } es r ∧ r.IsDone ∧
    es.length ≤ 17 * (streamClient.lifetime reopened).length ∧
    r.stream.connections = [0, 1] ∧
    r.stream.streams.map List.length = [40, 36] ∧
    r.stream.streams.map Frame.read =
      (nonempty (Operation.stretches streamConfig false [] reopened)).map (·, []) ∧
    r.datagram.messages.map List.length = [32] := by
  have hc : ofConfig streamConfig = .ok streamClient := by rfl
  have hlength : ∀ stretch ∈ Operation.stretches streamConfig false [] reopened,
      ∀ message ∈ stretch, message.length < lengthLimit := by decide
  obtain ⟨es, r, hrun, hdone⟩ := Caller.exists_run_isDone (streamClient.lifetime reopened)
  obtain ⟨hshort, -, harrives⟩ := lifetime_delivers hc rfl reopened hlength hrun
  obtain ⟨harrivals, hstreams, hread, hmessages, -⟩ := harrives hdone
  refine ⟨es, r, hrun, hdone, hshort, ?_, ?_, hread, ?_⟩
  · rw [Outlet.connections_of_log harrivals]
    decide +kernel
  · rw [hstreams]
    decide +kernel
  · rw [hmessages]
    decide +kernel

end Client

end OscRemote
