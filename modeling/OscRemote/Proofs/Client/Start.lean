import OscRemote.Client.Start
import OscRemote.Proofs.Client.Effect

/-!
# Where workers cannot be started

To a transport it makes no difference that a worker could not be started: the run comes to where it
comes without the message (`System.Tries.exists_path`).  So what holds of all systems that runs lead
to holds whether or not workers can be started.

To a client it does make one.  An operation that sends a packet reports the cause if the packet is
not accepted, and the packet is gone; if it was a bundle, so are the messages in it.  All other
operations are performed as ever (`Client.performVia_cases`), and closing alone never fails.

What is said elsewhere of `Client.perform` and `Client.performAll` is said of clients whose packets
are all accepted.  For this it is enough that each transport has a worker or can start one
(`Answers.startWorkers_ofSystems_iff`, `Client.performAllVia_of_startWorkers`).
-/

namespace OscRemote

/-! ## Transports -/

namespace System

variable {kind : TransportKind} {s s' : System}

lemma offer_ok (s : System) (kind : TransportKind) (message : Octets) :
    s.offer kind (.ok ()) message = (s.send kind message, .ok ()) := by
  unfold offer
  cases s.transport.isRunning <;> rfl

lemma offer_of_isRunning (h : s.transport.isRunning = true) (start : Except FileError Unit)
    (message : Octets) : s.offer kind start message = (s.send kind message, .ok ()) := by
  unfold offer
  rw [if_pos h]

lemma offer_error_of_not_isRunning (h : s.transport.isRunning = false) (cause : FileError)
    (message : Octets) :
    s.offer kind (.error cause) message = (s, .error (.workerStart cause)) := by
  unfold offer
  rw [if_neg (Bool.eq_false_iff.1 h)]

/-- A message is accepted, or no worker runs and none can be started; then the transport stays as it
is. -/
lemma offer_cases (s : System) (kind : TransportKind) (start : Except FileError Unit)
    (message : Octets) :
    s.offer kind start message = (s.send kind message, .ok ()) ∨
      ∃ cause, start = .error cause ∧ s.transport.isRunning = false ∧
        s.offer kind start message = (s, .error (.workerStart cause)) := by
  cases start with
  | ok => exact Or.inl (s.offer_ok kind message)
  | error cause =>
    cases h : s.transport.isRunning with
    | true => exact Or.inl (offer_of_isRunning h _ message)
    | false => exact Or.inr ⟨cause, rfl, rfl, offer_error_of_not_isRunning h cause message⟩

/-- An action takes place, or it is a message that is not accepted, and nothing happens. -/
lemma attempt?_cases {start : Except FileError Unit} {a : Action}
    (h : s.attempt? kind start a = some s') :
    s.perform? kind a = some s' ∨ s' = s ∧ ∃ message, a = .send message := by
  cases a with
  | send message =>
    obtain rfl := Option.some.inj h
    obtain hsend | ⟨cause, -, -, hrefused⟩ := s.offer_cases kind start message
    · rw [hsend]
      exact Or.inl rfl
    · rw [hrefused]
      exact Or.inr ⟨rfl, message, rfl⟩
  | _ => exact Or.inl h

/-- A run in which the start of a worker may fail leads to where the same run leads without some of
the messages, namely those that were not accepted. -/
theorem Tries.exists_path {tries : List (Except FileError Unit × Action)}
    (h : Tries kind s tries s') :
    ∃ as, Path kind s as s' ∧ as.Sublist (tries.map Prod.snd) ∧
      as.filter (·.sent?.isNone) = (tries.map Prod.snd).filter (·.sent?.isNone) := by
  induction h with
  | nil s => exact ⟨[], .nil s, List.Sublist.refl _, rfl⟩
  | @cons _ _ _ _ a _ ha _ ih =>
    obtain ⟨as, hpath, hsublist, hothers⟩ := ih
    obtain hperform | ⟨rfl, message, rfl⟩ := attempt?_cases ha
    · refine ⟨a :: as, .cons hperform hpath, hsublist.cons_cons a, ?_⟩
      rw [List.map_cons, List.filter_cons, List.filter_cons, hothers]
    · exact ⟨as, hpath, hsublist.cons _, hothers⟩

/-- Where every worker can be started, these are the runs that there are. -/
theorem tries_ok_iff {as : List Action} :
    Tries kind s (as.map (Prod.mk (.ok ()))) s' ↔ Path kind s as s' := by
  have hattempt (s : System) (a : Action) : s.attempt? kind (.ok ()) a = s.perform? kind a := by
    cases a with
    | send message =>
      show some (s.offer kind (.ok ()) message).1 = some (s.send kind message)
      rw [offer_ok]
    | _ => rfl
  constructor
  · intro h
    induction as generalizing s with
    | nil =>
      cases h
      exact .nil _
    | cons a as ih =>
      cases h with
      | cons ha hrest => exact .cons (hattempt s a ▸ ha) (ih hrest)
  · intro h
    induction h with
    | nil s => exact .nil s
    | cons ha _ ih => exact .cons ((hattempt _ _).trans ha) ih

/-- What runs lead to in which the start of a worker may fail, they lead to without it. -/
theorem Tries.reachable {tries : List (Except FileError Unit × Action)}
    (h : Tries kind {} tries s) : Reachable kind s := by
  obtain ⟨as, hpath, -⟩ := h.exists_path
  exact ⟨as, hpath⟩

end System

/-! ## Answers -/

namespace Answers

variable {answers : Answers}

/-- Every packet is accepted: whenever a worker has to be started for one, it can be. -/
def StartWorkers (answers : Answers) : Prop :=
  ∀ kind packet, answers kind packet = .ok ()

/-- Whether a request is carried out: a packet is sent only if it is accepted. -/
def accepts (answers : Answers) : Request → Bool
  | .send kind packet => (answers kind packet).isOk
  | .drain .. | .close _ => true

/-- The cause for which a request is not carried out. -/
def refusal? (answers : Answers) : Request → Option ClientError
  | .send kind packet =>
    match answers kind packet with
    | .ok () => none
    | .error e => some e
  | .drain .. | .close _ => none

lemma StartWorkers.filter_accepts (h : answers.StartWorkers) (requests : List Request) :
    requests.filter answers.accepts = requests := by
  refine List.filter_eq_self.2 fun request _ => ?_
  cases request with
  | send kind packet =>
    rw [accepts, h]
    rfl
  | drain | close => rfl

/-- Where a worker runs it takes the packet; else it depends on whether one can be started, and that
is the only thing that a transport reports. -/
lemma ofSystems_eq_error_iff {systems : TransportKind → System}
    {start : TransportKind → Except FileError Unit} {kind : TransportKind} {packet : Octets}
    {e : ClientError} : ofSystems systems start kind packet = .error e ↔
      (systems kind).transport.isRunning = false ∧
        ∃ cause, start kind = .error cause ∧ e = .workerStart cause := by
  rw [ofSystems]
  obtain hsend | ⟨cause, hstart, hrunning, hrefused⟩ :=
    (systems kind).offer_cases kind (start kind) packet
  · rw [hsend]
    refine iff_of_false (by simp) ?_
    rintro ⟨hrunning, cause, hstart, -⟩
    rw [hstart, System.offer_error_of_not_isRunning hrunning] at hsend
    cases (Prod.mk.inj hsend).2
  · rw [hrefused, Except.error.injEq]
    refine ⟨fun h => ⟨hrunning, cause, hstart, h.symm⟩, ?_⟩
    rintro ⟨-, cause', hstart', rfl⟩
    rw [Except.error.inj (hstart.symm.trans hstart')]

/-- Transports accept every packet if each has a worker or can start one, and not otherwise. -/
theorem startWorkers_ofSystems_iff {systems : TransportKind → System}
    {start : TransportKind → Except FileError Unit} : (ofSystems systems start).StartWorkers ↔
      ∀ kind, (systems kind).transport.isRunning = true ∨ start kind = .ok () := by
  constructor
  · intro h kind
    by_contra hneither
    rw [not_or, Bool.not_eq_true] at hneither
    cases hstart : start kind with
    | ok => exact hneither.2 hstart
    | error cause =>
      have hrefused : ofSystems systems start kind [] = .error (.workerStart cause) :=
        ofSystems_eq_error_iff.2 ⟨hneither.1, cause, hstart, rfl⟩
      cases hrefused.symm.trans (h kind [])
  · intro h kind packet
    cases hanswer : ofSystems systems start kind packet with
    | ok => rfl
    | error e =>
      obtain ⟨hrunning, cause, hstart, -⟩ := ofSystems_eq_error_iff.1 hanswer
      obtain hrunning' | hstart' := h kind
      · cases hrunning.symm.trans hrunning'
      · cases hstart.symm.trans hstart'

end Answers

/-! ## Operations -/

namespace Client

variable {c d : Client} {op : Operation} {requests : List Request}

/-- The client with what comes of these requests. -/
def answered (answers : Answers) (c : Client) (requests : List Request) : Trial where
  client := c
  asked := requests.filter answers.accepts
  result := (requests.findSome? answers.refusal?).elim (.ok ()) .error

variable (answers : Answers)

lemma sendVia_eq (c : Client) (kind : TransportKind) (packet? : Option Octets) :
    c.sendVia answers kind packet? = c.answered answers (packet?.toList.map (.send kind)) := by
  cases packet? with
  | none => rfl
  | some packet =>
    cases h : answers kind packet <;>
      simp [sendVia, answered, Answers.accepts, Answers.refusal?, h, Except.isOk, Except.toBool]

lemma submitVia_eq (c : Client) (kind : TransportKind) (message : Octets) :
    c.submitVia answers kind message =
      (c.submit kind message).1.answered answers (c.submit kind message).2 := by
  cases kind with
  | stream => exact c.sendVia_eq answers .stream (some message)
  | datagram => cases hbundle : c.bundle <;> simp [submitVia, submit, hbundle, sendVia_eq]

/-- To submit a message is to send one packet at most. -/
lemma exists_packet_of_submit (c : Client) (kind : TransportKind) (message : Octets) :
    ∃ kind' packet?, (c.submit kind message).2 = (Option.toList packet?).map (.send kind') := by
  cases kind with
  | stream => exact ⟨.stream, some message, rfl⟩
  | datagram =>
    cases hbundle : c.bundle with
    | none => exact ⟨.datagram, some message, by rw [submit_of_bundle_eq_none hbundle]; rfl⟩
    | some b => exact ⟨.datagram, (b.append message).2, by simp [submit, hbundle]⟩

lemma endBundleVia_eq (c : Client) :
    c.endBundleVia answers = c.endBundle.1.answered answers c.endBundle.2 :=
  sendVia_eq answers _ .datagram _

lemma sendOperationVia_of_ok (h : c.sendOperation op = .ok (d, requests)) :
    c.sendOperationVia answers op = d.answered answers requests := by
  by_cases hnone : op.message? c.config = none
  · simp only [sendOperation, hnone] at h
    obtain ⟨rfl, rfl⟩ := Prod.mk.inj (Except.ok.inj h)
    simp only [sendOperationVia, hnone]
    rfl
  · obtain ⟨kind, m, packet, hmessage, hencode, hsubmit⟩ := of_sendOperation_eq_ok h hnone
    simp only [sendOperationVia, hmessage, hencode]
    rw [c.submitVia_eq answers kind packet, ← hsubmit]

lemma sendOperationVia_of_error {e : ClientError} (h : c.sendOperation op = .error e) :
    c.sendOperationVia answers op = { client := c, asked := [], result := .error e } := by
  obtain ⟨kind, m, cause, hmessage, hencode, rfl⟩ := (c.sendOperation_eq_error_iff op e).1 h
  simp only [sendOperationVia, hmessage, hencode]

/-- Closing the transports is nothing that they can refuse. -/
lemma filter_accepts_closeRequests (config : Config) :
    (closeRequests config).filter answers.accepts = closeRequests config := by
  unfold closeRequests
  cases config.onClose.policy <;> rfl

lemma unloadOnCloseVia_eq (c : Client) :
    (c.unloadOnCloseVia answers).client = c.unloadOnClose.1 ∧
      (c.unloadOnCloseVia answers).asked = c.unloadOnClose.2.filter answers.accepts := by
  unfold unloadOnCloseVia unloadOnClose
  split
  case isTrue =>
    cases hsend : c.sendOperation .unload with
    | ok outcome =>
      rw [sendOperationVia_of_ok answers hsend]
      exact ⟨rfl, rfl⟩
    | error e =>
      rw [sendOperationVia_of_error answers hsend]
      exact ⟨rfl, rfl⟩
  case isFalse => exact ⟨rfl, rfl⟩

/-- Closing carries out what is accepted of what it asks for, and does not fail. -/
lemma closeVia_eq (c : Client) : c.closeVia answers =
    { client := c.close.1, asked := c.close.2.filter answers.accepts, result := .ok () } := by
  obtain ⟨hclient, hasked⟩ := c.endBundle.1.unloadOnCloseVia_eq answers
  have hclose : c.close.2.filter answers.accepts =
      c.endBundle.2.filter answers.accepts ++
        c.endBundle.1.unloadOnClose.2.filter answers.accepts ++
          closeRequests c.endBundle.1.unloadOnClose.1.config := by
    rw [← filter_accepts_closeRequests answers, ← List.filter_append, ← List.filter_append]
    rfl
  rw [closeVia, endBundleVia_eq, hclose]
  simp only [answered, hclient, hasked]
  rfl

/-- An operation that does not close asks to send one packet at most, or else to drain. -/
lemma exists_packet_of_perform (hop : op ≠ .close) (h : c.perform op = .ok (d, requests)) :
    op = .drain ∨ ∃ kind packet?, requests = (Option.toList packet?).map (.send kind) := by
  obtain rfl | rfl | rfl | rfl | ⟨-, hperform, -⟩ := perform_cases op
  · obtain ⟨rfl, rfl⟩ := Prod.mk.inj (Except.ok.inj h)
    exact Or.inr ⟨.datagram, _, rfl⟩
  · obtain ⟨rfl, rfl⟩ := Prod.mk.inj (Except.ok.inj h)
    exact Or.inr ⟨.datagram, _, rfl⟩
  · exact Or.inl rfl
  · exact absurd rfl hop
  · rw [hperform] at h
    refine Or.inr ?_
    cases hmessage : op.message? c.config with
    | none =>
      rw [sendOperation, hmessage] at h
      obtain ⟨rfl, rfl⟩ := Prod.mk.inj (Except.ok.inj h)
      exact ⟨.stream, none, rfl⟩
    | some packet =>
      obtain ⟨kind, m, message, -, -, hsubmit⟩ :=
        of_sendOperation_eq_ok h (by simp [hmessage])
      obtain ⟨rfl, rfl⟩ := Prod.mk.inj hsubmit
      exact c.exists_packet_of_submit kind message

/-- If there is one packet at most, either everything is carried out or nothing is. -/
lemma answered_cases (c : Client) (kind : TransportKind) (packet? : Option Octets) :
    c.answered answers (packet?.toList.map (.send kind)) =
        { client := c, asked := packet?.toList.map (.send kind), result := .ok () } ∨
      ∃ packet e, packet? = some packet ∧ answers kind packet = .error e ∧
        c.answered answers (packet?.toList.map (.send kind)) =
          { client := c, asked := [], result := .error e } := by
  rw [← sendVia_eq]
  cases packet? with
  | none => exact Or.inl rfl
  | some packet =>
    cases h : answers kind packet with
    | ok => exact Or.inl (by rw [sendVia, h]; rfl)
    | error e => exact Or.inr ⟨packet, e, rfl, h, by rw [sendVia, h]⟩

lemma performVia_of_isSending (c : Client) (hop : op.isSending = true) :
    c.performVia answers op = c.sendOperationVia answers op := by
  cases op with
  | load | unload | mute | systemMute | volume | systemVolume | send => rfl
  | startBundle | endBundle | drain | close => cases hop

/-- An operation that has neither to do with closing nor opens a bundle carries out what is accepted
of what it asks for, and reports what is not. -/
lemma performVia_eq (hclose : op ≠ .close) (hstart : op ≠ .startBundle)
    (h : c.perform op = .ok (d, requests)) :
    c.performVia answers op = d.answered answers requests := by
  by_cases hop : op.isSending = true
  · rw [c.performVia_of_isSending answers hop]
    rw [c.perform_of_isSending hop] at h
    exact sendOperationVia_of_ok answers h
  · cases op with
    | endBundle =>
      obtain ⟨rfl, rfl⟩ := Prod.mk.inj (Except.ok.inj h)
      exact c.endBundleVia_eq answers
    | drain =>
      obtain ⟨rfl, rfl⟩ := Prod.mk.inj (Except.ok.inj h)
      rfl
    | startBundle => exact absurd rfl hstart
    | close => exact absurd rfl hclose
    | load | unload | mute | systemMute | volume | systemVolume | send => exact absurd rfl hop

/-- Another bundle is opened only if the packet of the open one is accepted. -/
lemma performVia_startBundle (h : c.perform .startBundle = .ok (d, requests)) :
    c.performVia answers .startBundle = { client := d, asked := requests, result := .ok () } ∨
      ∃ kind packet e, requests = [.send kind packet] ∧ answers kind packet = .error e ∧
        c.performVia answers .startBundle =
          { client := { d with bundle := none }, asked := [], result := .error e } := by
  obtain ⟨rfl, rfl⟩ := Prod.mk.inj (Except.ok.inj h)
  have hended := c.endBundleVia_eq answers
  obtain hall | ⟨packet, e, hpacket, he, hnone⟩ :=
    c.endBundle.1.answered_cases answers .datagram (c.bundle.bind Bundle.close)
  · refine Or.inl ?_
    rw [performVia, startBundleVia, hended.trans hall]
    rfl
  · refine Or.inr ⟨.datagram, packet, e, by rw [hpacket]; rfl, he, ?_⟩
    rw [performVia, startBundleVia, hended.trans hnone]
    rfl

/-- What an operation comes to by the answers of the transports.

If it fails where every packet is accepted, it fails in the same way, and nothing happens.  Else
either it does what it does there, in the case of closing as far as packets are accepted; or the one
packet that it sends is refused.  Then this is reported and nothing is asked, and the client is as
if the packet had been sent, except that no other bundle is opened. -/
theorem performVia_cases (c : Client) (op : Operation) :
    (∀ e, c.perform op = .error e →
      c.performVia answers op = { client := c, asked := [], result := .error e }) ∧
    ∀ d requests, c.perform op = .ok (d, requests) →
      (op = .close ∧ c.performVia answers op =
        { client := d, asked := requests.filter answers.accepts, result := .ok () }) ∨
      c.performVia answers op = { client := d, asked := requests, result := .ok () } ∨
      ∃ kind packet e, requests = [.send kind packet] ∧ answers kind packet = .error e ∧
        c.performVia answers op =
          { client := if op = .startBundle then { d with bundle := none } else d
            asked := []
            result := .error e } := by
  constructor
  · intro e h
    by_cases hop : op.isSending = true
    · rw [c.performVia_of_isSending answers hop]
      rw [c.perform_of_isSending hop] at h
      exact sendOperationVia_of_error answers h
    · cases op with
      | startBundle | endBundle | drain | close => cases h
      | load | unload | mute | systemMute | volume | systemVolume | send => exact absurd rfl hop
  · intro d requests h
    by_cases hclose : op = .close
    · subst hclose
      obtain ⟨rfl, rfl⟩ := Prod.mk.inj (Except.ok.inj h)
      exact Or.inl ⟨rfl, c.closeVia_eq answers⟩
    refine Or.inr ?_
    by_cases hstart : op = .startBundle
    · subst hstart
      exact performVia_startBundle answers h
    · have hvia := performVia_eq answers hclose hstart h
      obtain rfl | ⟨kind, packet?, rfl⟩ := exists_packet_of_perform hclose h
      · obtain ⟨rfl, rfl⟩ := Prod.mk.inj (Except.ok.inj h)
        exact Or.inl hvia
      · obtain hall | ⟨packet, e, rfl, he, hnone⟩ := d.answered_cases answers kind packet?
        · exact Or.inl (hvia.trans hall)
        · refine Or.inr ⟨kind, packet, e, rfl, he, ?_⟩
          rw [hvia, hnone, if_neg hstart]

/-- Where every worker can be started, an operation does what it does where every packet is
accepted. -/
lemma performVia_of_startWorkers (h : answers.StartWorkers) (c : Client) (op : Operation) :
    (c.performVia answers op).client = (c.attempt op).1 ∧
      (c.performVia answers op).asked = (c.attempt op).2 ∧
      ∀ e, (c.performVia answers op).result = .error e ↔ c.perform op = .error e := by
  obtain ⟨hfails, hsucceeds⟩ := c.performVia_cases answers op
  rw [attempt]
  cases hperform : c.perform op with
  | error e =>
    rw [hfails e hperform]
    exact ⟨rfl, rfl, fun e' => by rw [Except.error.injEq, Except.error.injEq]⟩
  | ok outcome =>
    obtain ⟨-, hclose⟩ | hall | ⟨kind, packet, e, -, he, -⟩ :=
      hsucceeds outcome.1 outcome.2 hperform
    · rw [hclose, h.filter_accepts]
      exact ⟨rfl, rfl, fun e => by simp⟩
    · rw [hall]
      exact ⟨rfl, rfl, fun e => by simp⟩
    · cases he.symm.trans (h kind packet)

/-- Operations that are performed where every worker can be started ask for what they ask for where
every packet is accepted. -/
theorem performAllVia_of_startWorkers {tries : List (Answers × Operation)}
    (h : ∀ t ∈ tries, t.1.StartWorkers) (c : Client) :
    c.performAllVia tries = c.performAll (tries.map Prod.snd) := by
  induction tries generalizing c with
  | nil => rfl
  | cons t tries ih =>
    obtain ⟨hfirst, hrest⟩ := List.forall_mem_cons.1 h
    obtain ⟨hclient, hasked, -⟩ := c.performVia_of_startWorkers t.1 hfirst t.2
    rw [List.map_cons, performAll_cons, performAllVia, hclient, hasked, ih hrest]

/-- A message that does not go into a bundle leaves the client as it is. -/
lemma submit_eq_self {kind : TransportKind} (h : kind = .stream ∨ c.bundle = none)
    (message : Octets) : c.submit kind message = (c, [.send kind message]) := by
  cases kind with
  | stream => rfl
  | datagram => exact submit_of_bundle_eq_none (h.resolve_left nofun) _ _

/-- An operation of a client with transports fails for one of two causes, and asks for nothing then.
Either it fails where every packet is accepted too; then the cause is there to stay, and the client
is as it was.  Or it sends a packet to a transport that is not running, and no worker can be
started; then the same operation may succeed the next time, and if the packet is no bundle the
client is as it was, so that it will do the same. -/
theorem performVia_ofSystems_fails {systems : TransportKind → System}
    {start : TransportKind → Except FileError Unit} {e : ClientError}
    (h : (c.performVia (.ofSystems systems start) op).result = .error e) :
    (c.performVia (.ofSystems systems start) op).asked = [] ∧
      (c.perform op = .error e ∧ e.isRetryable = false ∧
          (c.performVia (.ofSystems systems start) op).client = c ∨
        ∃ kind packet cause d, c.perform op = .ok (d, [.send kind packet]) ∧
          (systems kind).transport.isRunning = false ∧ start kind = .error cause ∧
          e = .workerStart cause ∧ e.isRetryable = true ∧
          ∀ kind' m, op.message? c.config = some (kind', m) → kind' = .stream ∨ c.bundle = none →
            (c.performVia (.ofSystems systems start) op).client = c) := by
  obtain ⟨hfails, hsucceeds⟩ := c.performVia_cases (.ofSystems systems start) op
  cases hperform : c.perform op with
  | error e' =>
    have hvia := hfails e' hperform
    rw [hvia] at h ⊢
    obtain rfl := Except.error.inj h
    obtain ⟨-, -, cause, -, -, rfl⟩ := (c.perform_eq_error_iff op e').1 hperform
    exact ⟨rfl, Or.inl ⟨rfl, rfl, rfl⟩⟩
  | ok outcome =>
    obtain ⟨-, hvia⟩ | hvia | ⟨kind, packet, e', hrequests, he, hvia⟩ :=
      hsucceeds outcome.1 outcome.2 hperform
    · rw [hvia] at h
      cases h
    · rw [hvia] at h
      cases h
    · rw [hvia] at h ⊢
      obtain rfl := Except.error.inj h
      obtain ⟨hrunning, cause, hstart, rfl⟩ := Answers.ofSystems_eq_error_iff.1 he
      refine ⟨rfl, Or.inr ⟨kind, packet, cause, outcome.1, ?_, hrunning, hstart, rfl, rfl, ?_⟩⟩
      · rw [← hrequests]
      · intro kind' m hmessage hkind
        have hop : op.isSending = true := by
          cases op with
          | load | unload | mute | systemMute | volume | systemVolume | send => rfl
          | startBundle | endBundle | drain | close => cases hmessage
        have hstart : op ≠ .startBundle := by
          rintro rfl
          cases hop
        rw [c.perform_of_isSending hop] at hperform
        obtain ⟨kind'', m', message, hmessage', -, hsubmit⟩ :=
          of_sendOperation_eq_ok hperform (by simp [hmessage])
        obtain ⟨rfl, rfl⟩ := Prod.mk.inj (Option.some.inj (hmessage.symm.trans hmessage'))
        rw [if_neg hstart, hsubmit, submit_eq_self hkind]

end Client

end OscRemote
