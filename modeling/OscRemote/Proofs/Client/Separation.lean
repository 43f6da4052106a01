import OscRemote.Proofs.Client.Closing
import OscRemote.Proofs.Client.Failure
import OscRemote.Proofs.Client.Lifetime

/-!
# The two transports are separate

What a client asks of one transport does not depend on the operations that are for the other alone
(`Operation.aim?`).  For the stream this is shown step by step: two clients that differ in nothing
but the open bundle ask the same of it, and operations for datagrams change nothing but the bundle.
For datagrams it is simpler, since operations for the stream leave the client as it is.

Which transport is the core transport decides only where the built-in messages go.  What operations
put out is said without it (`Operation.outgoing`), and for either choice each transport gets its
share of the same list, divided by the same closings.
-/

namespace OscRemote

/-! ## Operations for one transport alone -/

namespace Operation

/-- The transport that an operation is for, if it is for one alone: the one on which its message
travels, if it has any, or that of bundles.  Draining and closing are for both. -/
def aim? (core : TransportKind) : Operation → Option TransportKind
  | load | unload | mute _ | systemMute _ | volume _ | systemVolume _ => some core
  | send kind _ _ => some kind
  | startBundle | endBundle => some .datagram
  | drain | close => none

/-- The operations that are not for this transport alone. -/
def leavingOut (core kind : TransportKind) (ops : List Operation) : List Operation :=
  ops.filter fun op => decide (op.aim? core ≠ some kind)

variable {config : Config} {op : Operation} {ops : List Operation} {core kind : TransportKind}
  {message : Octets}

lemma leavingOut_cons_of_eq (h : op.aim? core = some kind) :
    leavingOut core kind (op :: ops) = leavingOut core kind ops := by
  simp [leavingOut, h]

lemma leavingOut_cons_of_ne (h : op.aim? core ≠ some kind) :
    leavingOut core kind (op :: ops) = op :: leavingOut core kind ops := by
  simp [leavingOut, h]

/-- An operation with a message is for the transport of the message. -/
lemma aim?_of_packet? (h : op.packet? config = some (kind, message)) :
    op.aim? config.coreTransport = some kind := by
  obtain ⟨⟨kind', m⟩, hmessage, hpacket⟩ := Option.bind_eq_some_iff.1 h
  obtain ⟨packet, -, hkind⟩ := Option.map_eq_some_iff.1 hpacket
  obtain rfl : kind' = kind := congrArg Prod.fst hkind
  cases op with
  | load | unload | mute | systemMute | send =>
    exact congrArg (Option.map Prod.fst) hmessage
  | volume level | systemVolume level =>
    cases hlevel : level.inUnitInterval with
    | true =>
      simp only [message?, hlevel, if_true] at hmessage
      exact congrArg (Option.map Prod.fst) hmessage
    | false => simp [message?, hlevel] at hmessage
  | startBundle | endBundle | drain | close => cases hmessage

end Operation

namespace Client

variable {c d : Client} {op : Operation}

/-- Besides bundles, draining and closing there are only attempts to send a message. -/
lemma attempt_cases (op : Operation) :
    op = .startBundle ∨ op = .endBundle ∨ op = .drain ∨ op = .close ∨
      (op ≠ .close ∧ ∀ c : Client, c.attempt op = c.attemptSend op) := by
  obtain h | h | h | h | ⟨hclose, hperform, -⟩ := perform_cases op
  · exact Or.inl h
  · exact Or.inr (Or.inl h)
  · exact Or.inr (Or.inr (Or.inl h))
  · exact Or.inr (Or.inr (Or.inr (Or.inl h)))
  · refine Or.inr (Or.inr (Or.inr (Or.inr ⟨hclose, fun c => ?_⟩)))
    rw [attempt, hperform, attemptSend]

/-! ## Leaving out what is for datagrams -/

lemma requestsTo_stream_submit_datagram (c : Client) (message : Octets) :
    requestsTo .stream (c.submit .datagram message).2 = [] := by
  obtain ⟨packets, hpackets, hnone⟩ := c.sendsTo_submit_datagram .stream message
  rw [hpackets, hnone rfl, List.map_nil]

lemma requestsTo_stream_endBundle (c : Client) : requestsTo .stream c.endBundle.2 = [] :=
  requestsTo_map_send_of_ne .stream .datagram (by rintro ⟨⟩) _

/-- The stream is asked for the same, whatever bundle is open. -/
lemma requestsTo_stream_attempt (hconfig : c.config = d.config) (hclosed : c.closed = d.closed)
    (op : Operation) :
    requestsTo .stream (c.attempt op).2 = requestsTo .stream (d.attempt op).2 := by
  obtain rfl | rfl | rfl | rfl | ⟨-, hattempt⟩ := attempt_cases op
  · exact c.requestsTo_stream_endBundle.trans d.requestsTo_stream_endBundle.symm
  · exact c.requestsTo_stream_endBundle.trans d.requestsTo_stream_endBundle.symm
  · rfl
  · show requestsTo .stream c.close.2 = requestsTo .stream d.close.2
    rw [close_eq, close_eq, requestsTo_append, requestsTo_append, requestsTo_append,
      requestsTo_append, requestsTo_stream_endBundle, requestsTo_stream_endBundle, unloading,
      unloading, hconfig, hclosed]
  · rw [hattempt, hattempt, attemptSend_eq, attemptSend_eq, hconfig]
    rcases op.packet? d.config with _ | ⟨_ | _, message⟩
    · rfl
    · rfl
    · exact (c.requestsTo_stream_submit_datagram message).trans
        (d.requestsTo_stream_submit_datagram message).symm

/-- An operation that is for datagrams alone asks nothing of the stream. -/
lemma requestsTo_stream_attempt_eq_nil (h : op.aim? c.config.coreTransport = some .datagram) :
    requestsTo .stream (c.attempt op).2 = [] := by
  obtain rfl | rfl | rfl | rfl | ⟨-, hattempt⟩ := attempt_cases op
  · exact c.requestsTo_stream_endBundle
  · exact c.requestsTo_stream_endBundle
  · cases h
  · cases h
  · rw [hattempt, attemptSend_eq]
    rcases hpacket : op.packet? c.config with _ | ⟨kind, message⟩
    · rfl
    · rw [Operation.aim?_of_packet? hpacket] at h
      obtain rfl := Option.some.inj h
      exact c.requestsTo_stream_submit_datagram message

lemma ne_close_of_aim? {core kind : TransportKind} (h : op.aim? core = some kind) :
    op ≠ .close := by
  rintro rfl
  cases h

/-- Whether or not operations for datagrams alone are left out, the stream is asked for the same. -/
lemma requestsTo_stream_performAll (hconfig : c.config = d.config) (hclosed : c.closed = d.closed)
    (ops : List Operation) :
    requestsTo .stream
        (c.performAll (Operation.leavingOut c.config.coreTransport .datagram ops)).2 =
      requestsTo .stream (d.performAll ops).2 := by
  induction ops generalizing c d with
  | nil => rfl
  | cons op ops ih =>
    obtain ⟨hconfig', hclosed'⟩ := d.attempt_stays op
    rw [performAll_cons d, requestsTo_append]
    by_cases haim : op.aim? c.config.coreTransport = some .datagram
    · have hnothing := requestsTo_stream_attempt_eq_nil (hconfig ▸ haim)
      rw [Operation.leavingOut_cons_of_eq haim, hnothing, List.nil_append]
      refine ih (hconfig.trans hconfig'.symm) ?_
      rw [hclosed', hclosed, beq_false_of_ne (ne_close_of_aim? haim), Bool.or_false]
    · obtain ⟨hconfig'', hclosed''⟩ := c.attempt_stays op
      rw [Operation.leavingOut_cons_of_ne haim, performAll_cons c, requestsTo_append,
        requestsTo_stream_attempt hconfig hclosed]
      refine congrArg _ ?_
      rw [← hconfig'']
      refine ih ?_ ?_
      · rw [hconfig'', hconfig', hconfig]
      · rw [hclosed'', hclosed', hclosed]

/-! ## Leaving out what is for the stream -/

/-- An operation that is for the stream alone leaves the client as it is, and asks nothing of the
other transport. -/
lemma attempt_of_aim?_stream (h : op.aim? c.config.coreTransport = some .stream) :
    (c.attempt op).1 = c ∧ requestsTo .datagram (c.attempt op).2 = [] := by
  obtain rfl | rfl | rfl | rfl | ⟨-, hattempt⟩ := attempt_cases op
  · cases h
  · cases h
  · cases h
  · cases h
  · rw [hattempt, attemptSend_eq]
    rcases hpacket : op.packet? c.config with _ | ⟨kind, message⟩
    · exact ⟨rfl, rfl⟩
    · rw [Operation.aim?_of_packet? hpacket] at h
      obtain rfl := Option.some.inj h
      exact ⟨rfl, rfl⟩

/-- Whether or not operations for the stream alone are left out, the client comes to the same, and
the other transport is asked for the same. -/
lemma requestsTo_datagram_performAll (c : Client) (ops : List Operation) :
    (c.performAll (Operation.leavingOut c.config.coreTransport .stream ops)).1 =
        (c.performAll ops).1 ∧
      requestsTo .datagram
          (c.performAll (Operation.leavingOut c.config.coreTransport .stream ops)).2 =
        requestsTo .datagram (c.performAll ops).2 := by
  induction ops generalizing c with
  | nil => exact ⟨rfl, rfl⟩
  | cons op ops ih =>
    rw [performAll_cons, requestsTo_append]
    by_cases haim : op.aim? c.config.coreTransport = some .stream
    · obtain ⟨hclient, hnothing⟩ := attempt_of_aim?_stream haim
      rw [Operation.leavingOut_cons_of_eq haim, hclient, hnothing, List.nil_append]
      exact ih c
    · obtain ⟨hclient, hrequests⟩ := ih (c.attempt op).1
      rw [(c.attempt_stays op).1] at hclient hrequests
      rw [Operation.leavingOut_cons_of_ne haim, performAll_cons, requestsTo_append]
      exact ⟨hclient, congrArg _ hrequests⟩

end Client

/-! ## What is put out, whichever transport is the core transport -/

/-- What a client puts out: a built-in message, which travels on the core transport; a message with
a transport of its own; or that both transports are closed. -/
inductive Outgoing where
  | builtIn (message : Octets)
  | custom (kind : TransportKind) (message : Octets)
  | closing

/-- What one transport gets: a message, or that it is closed. -/
inductive Item where
  | message (message : Octets)
  | closing
deriving DecidableEq

/-- What one transport gets of what is put out. -/
def Outgoing.item? (core kind : TransportKind) : Outgoing → Option Item
  | builtIn message => if core = kind then some (.message message) else none
  | custom other message => if other = kind then some (.message message) else none
  | closing => some .closing

/-- What one transport gets by a request; waiting is nothing to it. -/
def Request.item? (kind : TransportKind) : Request → Option Item
  | send other packet => if other = kind then some (.message packet) else none
  | close other => if other = kind then some .closing else none
  | drain _ _ => none

/-- What one transport gets by requests, in order. -/
def items (kind : TransportKind) (requests : List Request) : List Item :=
  requests.filterMap (Request.item? kind)

/-- What the items of a transport are if each datagram counts for the messages that it carries. -/
inductive Unbundles : List Item → List Item → Prop
  | nil : Unbundles [] []
  | load {load : Datagram} {sent entries : List Item} (hload : load.IsLoad) :
      Unbundles sent entries →
      Unbundles (.message load.octets :: sent) (load.messages.map .message ++ entries)
  | closing {sent entries : List Item} :
      Unbundles sent entries → Unbundles (.closing :: sent) (.closing :: entries)

namespace Operation

/-- What an operation puts out.  Closing puts out the message that unloads the project, the first
time and if the configuration asks for it. -/
def outgoing (config : Config) (closed : Bool) : Operation → List Outgoing
  | close =>
    (if !closed && config.onClose.unload then
      (unload.packet? config).toList.map fun packet => .builtIn packet.2
    else []) ++ [.closing]
  | send kind address args =>
    ((send kind address args).packet? config).toList.map fun packet => .custom kind packet.2
  | op => (op.packet? config).toList.map fun packet => .builtIn packet.2

/-- What operations put out, in order. -/
def outgoingAll (config : Config) (closed : Bool) : List Operation → List Outgoing
  | [] => []
  | op :: ops => op.outgoing config closed ++ outgoingAll config (closed || op == close) ops

variable {config : Config} {op : Operation} {kind : TransportKind} {message : Octets}

/-! ### The core transport makes no difference -/

lemma map_packet?_with_core (config : Config) (core : TransportKind) (op : Operation) :
    (op.packet? { config with coreTransport := core }).map Prod.snd =
      (op.packet? config).map Prod.snd := by
  cases op with
  | volume level | systemVolume level =>
    cases hlevel : level.inUnitInterval <;>
      simp [packet?, message?, hlevel, Option.map_map, Function.comp_def]
  | load | unload | mute | systemMute | send | startBundle | endBundle | drain | close =>
    simp [packet?, message?, Option.map_map, Function.comp_def]

lemma outgoing_with_core (config : Config) (core : TransportKind) (closed : Bool)
    (op : Operation) :
    op.outgoing { config with coreTransport := core } closed = op.outgoing config closed := by
  have hmap (make : Octets → Outgoing) (op : Operation) :
      ((op.packet? { config with coreTransport := core }).toList.map fun packet => make packet.2) =
        (op.packet? config).toList.map fun packet => make packet.2 := by
    have hpackets := congrArg (fun message? => (Option.map make message?).toList)
      (map_packet?_with_core config core op)
    simpa [Option.map_map, Function.comp_def, Option.toList_map] using hpackets
  cases op with
  | close =>
    show (if !closed && config.onClose.unload then _ else []) ++ _ = _
    rw [hmap]
    rfl
  | send kind address args => exact hmap (.custom kind) _
  | load | unload | mute | systemMute | volume | systemVolume | startBundle | endBundle | drain =>
    exact hmap .builtIn _

/-- What operations put out does not depend on which transport is the core transport. -/
lemma outgoingAll_with_core (config : Config) (core : TransportKind) (closed : Bool)
    (ops : List Operation) :
    outgoingAll { config with coreTransport := core } closed ops =
      outgoingAll config closed ops := by
  induction ops generalizing closed with
  | nil => rfl
  | cons op ops ih => rw [outgoingAll, outgoing_with_core, ih, outgoingAll]

/-! ### Shares -/

/-- The message that an operation has for one transport, if it can be encoded. -/
def messageFor? (config : Config) (kind : TransportKind) (op : Operation) : Option Octets :=
  (op.packet? config).bind fun packet => if packet.1 = kind then some packet.2 else none

lemma datagram?_eq (config : Config) (op : Operation) :
    op.datagram? config = op.messageFor? config .datagram := by
  unfold datagram? messageFor? packet?
  rcases op.message? config with _ | ⟨_ | _, m⟩
  · rfl
  · cases hencode : m.encode <;> simp [hencode, Except.toOption]
  · cases hencode : m.encode <;> simp [hencode, Except.toOption]

/-- Besides closing, what one transport gets of what an operation puts out is its message. -/
lemma filterMap_outgoing_of_ne_close (closed : Bool) (kind : TransportKind) (h : op ≠ .close) :
    (op.outgoing config closed).filterMap (Outgoing.item? config.coreTransport kind) =
      (op.messageFor? config kind).toList.map .message := by
  unfold messageFor?
  rcases hpacket : op.packet? config with _ | ⟨other, message⟩
  · cases op with
    | close => exact absurd rfl h
    | load | unload | mute | systemMute | volume | systemVolume | send | startBundle | endBundle
    | drain => simp [outgoing, hpacket]
  · have haim := aim?_of_packet? hpacket
    cases op with
    | startBundle | endBundle | drain | close => cases hpacket
    | load | unload | mute | systemMute | volume | systemVolume =>
      obtain rfl := Option.some.inj haim
      simp only [outgoing, hpacket]
      cases config.coreTransport <;> cases kind <;> rfl
    | send sent =>
      obtain rfl := Option.some.inj haim
      simp only [outgoing, hpacket]
      cases sent <;> cases kind <;> rfl

lemma filterMap_outgoing_close (config : Config) (closed : Bool) (kind : TransportKind) :
    (close.outgoing config closed).filterMap (Outgoing.item? config.coreTransport kind) =
      (if !closed && config.onClose.unload then
        (unload.messageFor? config kind).toList.map .message
      else []) ++ [.closing] := by
  have hne : unload ≠ close := by rintro ⟨⟩
  have hunload : (unload.outgoing config closed).filterMap _ = _ :=
    filterMap_outgoing_of_ne_close closed kind hne
  rw [outgoing, List.filterMap_append]
  refine congrArg (· ++ [Item.closing]) ?_
  split
  case isTrue => exact hunload
  case isFalse => rfl

end Operation

/-! ## What each transport gets -/

section

variable {kind : TransportKind} {sent sent' entries entries' : List Item} {loads : List Datagram}

@[simp] lemma items_append (kind : TransportKind) (first second : List Request) :
    items kind (first ++ second) = items kind first ++ items kind second := List.filterMap_append

lemma items_map_send (packets : List Octets) :
    items kind (packets.map (.send kind)) = packets.map .message := by
  simp [items, List.filterMap_map, Request.item?, Function.comp_def]

/-- Where nothing is asked of a transport it gets nothing. -/
lemma items_eq_nil {requests : List Request} (h : requestsTo kind requests = []) :
    items kind requests = [] := by
  refine List.filterMap_eq_nil_iff.2 fun r hr => ?_
  have hkind : r.kind ≠ kind := by simpa using List.filter_eq_nil_iff.1 h r hr
  cases r with
  | send | close => exact if_neg hkind
  | drain => rfl

lemma items_closeRequests (kind : TransportKind) (config : Config) :
    items kind (Client.closeRequests config) = [.closing] := by
  unfold Client.closeRequests
  cases config.onClose.policy <;> cases kind <;> rfl

lemma items_unloading (kind : TransportKind) (c : Client) :
    items kind c.unloading =
      if !c.closed && c.config.onClose.unload then
        (Operation.unload.messageFor? c.config kind).toList.map .message
      else [] := by
  unfold Client.unloading Operation.messageFor?
  split
  case isTrue =>
    rcases Operation.unload.packet? c.config with _ | ⟨other, message⟩
    · rfl
    · cases other <;> cases kind <;> rfl
  case isFalse => rfl

lemma unbundles_append (h : Unbundles sent entries) (h' : Unbundles sent' entries') :
    Unbundles (sent ++ sent') (entries ++ entries') := by
  induction h with
  | nil => exact h'
  | load hload _ ih =>
    rw [List.append_assoc]
    exact .load hload ih
  | closing _ ih => exact .closing ih

lemma unbundles_loads (h : ∀ load ∈ loads, load.IsLoad) :
    Unbundles ((loads.map Datagram.octets).map .message)
      ((loads.flatMap Datagram.messages).map .message) := by
  induction loads with
  | nil => exact .nil
  | cons load loads ih =>
    obtain ⟨hload, hloads⟩ := List.forall_mem_cons.1 h
    rw [List.flatMap_cons, List.map_append]
    exact .load hload (ih hloads)

end

namespace Client

variable {c : Client} {op : Operation} {ops : List Operation} {messages sent : List Octets}

/-- An operation that does not close has packets sent, and nothing else that counts. -/
lemma items_datagram_attempt (h : op ≠ .close) :
    items .datagram (c.attempt op).2 = (datagrams (c.attempt op).2).map .message := by
  have hsubmit (message : Octets) : items .datagram (c.submit .datagram message).2 =
      (datagrams (c.submit .datagram message).2).map .message := by
    cases hbundle : c.bundle with
    | none =>
      rw [submit_of_bundle_eq_none hbundle]
      rfl
    | some b => simp [submit, hbundle, items_map_send]
  obtain rfl | rfl | rfl | rfl | ⟨-, hattempt⟩ := attempt_cases op
  · exact (items_map_send _).trans (congrArg _ (datagrams_map_send _).symm)
  · exact (items_map_send _).trans (congrArg _ (datagrams_map_send _).symm)
  · rfl
  · exact absurd rfl h
  · rw [hattempt, attemptSend_eq]
    rcases op.packet? c.config with _ | ⟨_ | _, message⟩
    · rfl
    · rfl
    · exact hsubmit message

lemma items_datagram_close (c : Client) :
    items .datagram c.close.2 = (datagrams c.close.2).map .message ++ [.closing] := by
  have hunloading : items .datagram c.unloading = (datagrams c.unloading).map .message := by
    rw [unloading]
    split
    case isTrue =>
      rcases Operation.unload.packet? c.config with _ | ⟨_ | _, message⟩
      · rfl
      · rfl
      · rfl
    case isFalse => rfl
  have hbundle : items .datagram c.endBundle.2 = (datagrams c.endBundle.2).map .message :=
    (items_map_send _).trans (congrArg _ (datagrams_map_send _).symm)
  rw [close_eq, items_append, items_append, items_closeRequests, datagrams_append,
    datagrams_append, datagrams_closeRequests, List.append_nil, List.map_append, hbundle,
    hunloading]

/-- The stream gets its share of what an operation puts out. -/
lemma items_stream_attempt (c : Client) (op : Operation) :
    items .stream (c.attempt op).2 = (op.outgoing c.config c.closed).filterMap
      (Outgoing.item? c.config.coreTransport .stream) := by
  have hbundle : items .stream c.endBundle.2 = [] := items_eq_nil c.requestsTo_stream_endBundle
  obtain rfl | rfl | rfl | rfl | ⟨hclose, hattempt⟩ := attempt_cases op
  · exact hbundle
  · exact hbundle
  · rfl
  · show items .stream c.close.2 = _
    rw [close_eq, items_append, items_append, hbundle, items_closeRequests, items_unloading,
      Operation.filterMap_outgoing_close, List.nil_append]
  · rw [hattempt, Operation.filterMap_outgoing_of_ne_close _ _ hclose, attemptSend_eq,
      Operation.messageFor?]
    rcases op.packet? c.config with _ | ⟨_ | _, message⟩
    · rfl
    · rfl
    · exact items_eq_nil (c.requestsTo_stream_submit_datagram message)

/-- The stream gets its share of what operations put out. -/
lemma items_stream_performAll (c : Client) (ops : List Operation) :
    items .stream (c.performAll ops).2 = (Operation.outgoingAll c.config c.closed ops).filterMap
      (Outgoing.item? c.config.coreTransport .stream) := by
  induction ops generalizing c with
  | nil => rfl
  | cons op ops ih =>
    obtain ⟨hconfig, hclosed⟩ := c.attempt_stays op
    have hmore := ih (c.attempt op).1
    rw [hconfig, hclosed] at hmore
    rw [performAll_cons, items_append, items_stream_attempt, hmore, Operation.outgoingAll,
      List.filterMap_append]

/-- What an operation submits for datagrams is their share of what it puts out, but for closing. -/
lemma filterMap_outgoing_datagram (config : Config) (closed : Bool) (op : Operation) :
    (op.outgoing config closed).filterMap (Outgoing.item? config.coreTransport .datagram) =
      (op.submitted config closed).map .message ++ if op = .close then [.closing] else [] := by
  by_cases hclose : op = .close
  · subst hclose
    rw [Operation.filterMap_outgoing_close, if_pos rfl, Operation.submitted]
    split
    case isTrue => rw [Operation.datagram?_eq]
    case isFalse => rfl
  · have hsubmitted : op.submitted config closed = (op.datagram? config).toList := by
      cases op with
      | close => exact absurd rfl hclose
      | load | unload | mute | systemMute | volume | systemVolume | send | startBundle
      | endBundle | drain => rfl
    rw [Operation.filterMap_outgoing_of_ne_close _ _ hclose, if_neg hclose, List.append_nil,
      hsubmitted, Operation.datagram?_eq]

/-- Datagrams carry their share of what operations put out, but for what the open bundle has.  With
`messages` submitted and `sent` handed over since the client was closed last, what follows is an
induction over the operations in which closing begins anew. -/
lemma Accounts.items_performAll (h : c.Accounts messages sent) (ops : List Operation) :
    ∃ entries held, Unbundles (sent.map .message ++ items .datagram (c.performAll ops).2) entries ∧
      (c.performAll ops).1.Collects held ∧
      entries ++ held.map .message = messages.map .message ++
        (Operation.outgoingAll c.config c.closed ops).filterMap
          (Outgoing.item? c.config.coreTransport .datagram) := by
  induction ops generalizing c messages sent with
  | nil =>
    obtain ⟨loads, held, rfl, hloads, hheld, rfl⟩ := h
    refine ⟨(loads.flatMap Datagram.messages).map .message, held, ?_, hheld, ?_⟩
    · exact (List.append_nil _).symm ▸ unbundles_loads hloads
    · rw [List.map_append]
      exact (List.append_nil _).symm
  | cons op ops ih =>
    obtain ⟨hconfig, hclosed⟩ := c.attempt_stays op
    have hstep := h.attempt op
    rw [performAll_cons, items_append, Operation.outgoingAll, List.filterMap_append,
      filterMap_outgoing_datagram]
    by_cases hclose : op = .close
    · subst hclose
      obtain ⟨loads, held, hsent, hloads, hheld, hmessages⟩ := hstep
      have hnone : (c.attempt .close).1.bundle = none := congrArg (·.1.bundle) c.close_eq
      obtain rfl := (collects_of_eq_none hnone).1 hheld
      obtain ⟨entries, held, hentries, hheld', hall⟩ := ih (accounts_of_eq_none hnone)
      rw [hconfig, hclosed] at hall
      refine ⟨(loads.flatMap Datagram.messages).map .message ++ .closing :: entries, held, ?_,
        hheld', ?_⟩
      · have hitems : items .datagram (c.attempt .close).2 = _ := c.items_datagram_close
        rw [hitems, ← List.append_assoc, ← List.append_assoc, ← List.map_append]
        show Unbundles ((sent ++ datagrams (c.attempt .close).2).map _ ++ [.closing] ++ _) _
        rw [hsent, List.append_assoc]
        exact unbundles_append (unbundles_loads hloads) (.closing hentries)
      · rw [List.append_nil] at hmessages
        rw [if_pos rfl, ← List.append_assoc, ← List.append_assoc, ← List.map_append, ← hmessages,
          List.append_assoc, List.append_assoc, List.cons_append, hall]
        rfl
    · obtain ⟨entries, held, hentries, hheld, hall⟩ := ih hstep
      rw [hconfig, hclosed] at hall
      refine ⟨entries, held, ?_, hheld, ?_⟩
      · rw [items_datagram_attempt hclose, ← List.append_assoc, ← List.map_append]
        exact hentries
      · rw [hall, if_neg hclose, List.append_nil, List.map_append, List.append_assoc]

/-- Whatever is done with a client, its two transports have nothing to do with each other.

Without the operations that are for datagrams alone, the stream is asked for the same.  Without
those that are for the stream alone, the other transport is asked to send the same packets, and the
same bundle is left open.  In both cases the transport is closed, and waited for, at the same places
among what it is asked to send.

If only the core transport is another one, the client puts out the same, and each transport gets the
messages that go there, in the same order and divided by the same closings: the stream each by
itself, the other some of them in bundles, the last of which may still be open. -/
theorem transports_are_separate {config : Config} (hc : ofConfig config = .ok c)
    (ops : List Operation) :
    requestsTo .stream
        (c.performAll (Operation.leavingOut config.coreTransport .datagram ops)).2 =
      requestsTo .stream (c.performAll ops).2 ∧
    (requestsTo .datagram
        (c.performAll (Operation.leavingOut config.coreTransport .stream ops)).2 =
      requestsTo .datagram (c.performAll ops).2 ∧
    (c.performAll (Operation.leavingOut config.coreTransport .stream ops)).1.bundle =
      (c.performAll ops).1.bundle) ∧
    ∀ core, ∃ d, ofConfig { config with coreTransport := core } = .ok d ∧
      items .stream (d.performAll ops).2 =
        (Operation.outgoingAll config false ops).filterMap (Outgoing.item? core .stream) ∧
      ∃ entries held, Unbundles (items .datagram (d.performAll ops).2) entries ∧
        (d.performAll ops).1.Collects held ∧
        entries ++ held.map .message =
          (Operation.outgoingAll config false ops).filterMap (Outgoing.item? core .datagram) := by
  obtain ⟨rfl, -, -⟩ := of_ofConfig hc
  obtain ⟨hclient, hdatagram⟩ := requestsTo_datagram_performAll c ops
  refine ⟨requestsTo_stream_performAll rfl rfl ops, ⟨hdatagram, congrArg Client.bundle hclient⟩,
    fun core => ?_⟩
  have hvalid : ({ c.config with coreTransport := core } : Config).fault? = none := c.isValid
  obtain ⟨d, hd⟩ := exists_ofConfig hvalid
  obtain ⟨hconfig, hbundle, hclosed⟩ := of_ofConfig hd
  have houtgoing : Operation.outgoingAll d.config d.closed ops =
      Operation.outgoingAll c.config false ops := by
    rw [hconfig, hclosed, Operation.outgoingAll_with_core]
  have hcore : d.config.coreTransport = core := congrArg Config.coreTransport hconfig
  obtain ⟨entries, held, hentries, hheld, hall⟩ :=
    (accounts_of_eq_none hbundle).items_performAll ops
  rw [houtgoing, hcore] at hall
  refine ⟨d, hd, ?_, entries, held, hentries, hheld, hall⟩
  rw [items_stream_performAll, houtgoing, hcore]

/-- Of the sample, one message goes on the stream; with the other core transport the built-in
messages do too, in front of it and behind it, and only the custom messages are left for
datagrams. -/
theorem transports_are_separate_sample :
    ofConfig datagramConfig = .ok datagramClient ∧
    Operation.leavingOut .datagram .datagram sampleOperations =
      [.send .stream "/s" [], .close, .close] ∧
    requestsTo .stream (datagramClient.performAll [.send .stream "/s" [], .close, .close]).2 =
      requestsTo .stream (datagramClient.performAll sampleOperations).2 ∧
    ∃ d, ofConfig { datagramConfig with coreTransport := .stream } = .ok d ∧
      items .stream (d.performAll sampleOperations).2 =
        (Operation.outgoingAll datagramConfig false sampleOperations).filterMap
          (Outgoing.item? .stream .stream) ∧
      (items .stream (datagramClient.performAll sampleOperations).2).length = 3 ∧
      (items .stream (d.performAll sampleOperations).2).length = 6 ∧
      ∃ (entries : List Item) (held : List Octets),
        Unbundles (items .datagram (d.performAll sampleOperations).2) entries ∧
        (entries ++ held.map Item.message).length = 4 := by
  have hc : ofConfig datagramConfig = .ok datagramClient := by rfl
  have hleft : Operation.leavingOut .datagram .datagram sampleOperations =
      [.send .stream "/s" [], .close, .close] := by decide +kernel
  obtain ⟨hstream, -, hcore⟩ := transports_are_separate hc sampleOperations
  obtain ⟨d, hd, hitems, entries, held, hentries, -, hall⟩ := hcore .stream
  rw [show datagramConfig.coreTransport = .datagram from rfl, hleft] at hstream
  refine ⟨hc, hleft, hstream, d, hd, hitems, by decide +kernel, ?_, entries, held, hentries, ?_⟩
  · rw [hitems]
    decide +kernel
  · rw [hall]
    decide +kernel

end Client

end OscRemote
