import OscRemote.Proofs.Client.Progress
import OscRemote.Proofs.Client.Rest
import OscRemote.Proofs.Client.Threads

/-!
# What closing does, and what it leaves

A client that closes sends the bundle that is open, then the message that unloads the project, the
first time and if it is to, and then has both transports closed.  With several threads the call that
is begun first is the one that unloads (`SharedClient.Accords.submitted_of_close`).  With one thread
both transports are at rest when closing is over (`Caller.Run.isAtRest`), and the client is as it
was made, but for the note that it was closed.
-/

namespace OscRemote

/-! ## The message that unloads the project -/

/-- The message that unloads the project has an encoding unless there is a zero in the base
address. -/
lemma Operation.packet?_unload_eq_none_iff (config : Config) :
    Operation.unload.packet? config = none ↔ '\x00' ∈ config.baseAddress.toList := by
  have haddress : checkAddress "/AM/Unload" = .ok () := by decide
  have hpacket : Operation.unload.packet? config =
      (encode "/AM/Unload" [.text config.baseAddress]).toOption.map (config.coreTransport, ·) := rfl
  rw [hpacket, Option.map_eq_none_iff, encode, haddress, List.mapM_cons, payload_text, checkText,
    ← List.contains_iff_mem]
  by_cases hnul : config.baseAddress.toList.contains '\x00' = true
  · rw [if_pos hnul]
    exact iff_of_true rfl hnul
  · rw [if_neg hnul]
    exact iff_of_false (by rintro ⟨⟩) hnul

namespace Client

variable {c : Client}

/-! ## What closing asks of the transports -/

/-- The last that closing asks of a transport is to close. -/
lemma getLast?_requestsTo_close (kind : TransportKind) (requests : List Request)
    (config : Config) :
    (requestsTo kind (requests ++ closeRequests config)).getLast? = some (.close kind) := by
  have hlast : ∃ before, requestsTo kind (closeRequests config) = before ++ [.close kind] := by
    unfold closeRequests
    cases config.onClose.policy <;> cases kind
    · exact ⟨[_], rfl⟩
    · exact ⟨[_], rfl⟩
    · exact ⟨[], rfl⟩
    · exact ⟨[], rfl⟩
  obtain ⟨before, hbefore⟩ := hlast
  rw [requestsTo_append, hbefore, ← List.append_assoc, List.getLast?_concat]

/-- Closing the transports sends nothing. -/
lemma sent?_of_mem_closeRequests (config : Config) :
    ∀ r ∈ closeRequests config, r.action.sent? = none := by
  unfold closeRequests
  cases config.onClose.policy <;> simp [Request.action, Action.sent?]

/-! ## Runs of operations -/

lemma submit_with_closed (c : Client) (closed : Bool) (kind : TransportKind) (message : Octets) :
    ({ c with closed } : Client).submit kind message =
      ({ (c.submit kind message).1 with closed }, (c.submit kind message).2) := by
  cases kind with
  | stream => rfl
  | datagram => cases hbundle : c.bundle <;> simp [submit, hbundle]

lemma attemptSend_with_closed (c : Client) (closed : Bool) (op : Operation) :
    ({ c with closed } : Client).attemptSend op =
      ({ (c.attemptSend op).1 with closed }, (c.attemptSend op).2) := by
  rw [attemptSend_eq, attemptSend_eq]
  cases op.packet? c.config with
  | none => rfl
  | some packet => exact c.submit_with_closed closed packet.1 packet.2

/-- Whether a client was closed before makes no difference to any operation but closing. -/
lemma attempt_with_closed (c : Client) (closed : Bool) {op : Operation} (hop : op ≠ .close) :
    ({ c with closed } : Client).attempt op =
      ({ (c.attempt op).1 with closed }, (c.attempt op).2) := by
  obtain rfl | rfl | rfl | rfl | ⟨-, hperform, -⟩ := perform_cases op
  · rfl
  · rfl
  · rfl
  · exact absurd rfl hop
  · rw [attempt, attempt, hperform, hperform]
    exact c.attemptSend_with_closed closed op

lemma performAll_append (c : Client) (ops more : List Operation) :
    c.performAll (ops ++ more) = (((c.performAll ops).1.performAll more).1,
      (c.performAll ops).2 ++ ((c.performAll ops).1.performAll more).2) := by
  induction ops generalizing c with
  | nil => rfl
  | cons op ops ih =>
    rw [List.cons_append, performAll_cons, ih, performAll_cons, List.append_assoc]

lemma performAll_close (c : Client) : c.performAll [.close] = c.close :=
  Prod.ext rfl (List.append_nil c.close.2)

/-- No operation changes the configuration, and it is remembered whether one of them closed. -/
lemma performAll_stays (c : Client) (ops : List Operation) :
    (c.performAll ops).1.config = c.config ∧
      (c.performAll ops).1.closed = (c.closed || ops.contains .close) := by
  induction ops generalizing c with
  | nil => exact ⟨rfl, (Bool.or_false _).symm⟩
  | cons op ops ih =>
    obtain ⟨hconfig, hclosed⟩ := c.attempt_stays op
    obtain ⟨hconfig', hclosed'⟩ := ih (c.attempt op).1
    rw [performAll_cons, List.contains_cons, Bool.beq_comm]
    refine ⟨hconfig'.trans hconfig, ?_⟩
    rw [← Bool.or_assoc, ← hclosed]
    exact hclosed'

/-- Whether a client was closed before makes no difference to operations that do not close it. -/
lemma performAll_with_closed (c : Client) (closed : Bool) {ops : List Operation}
    (hops : .close ∉ ops) :
    ({ c with closed } : Client).performAll ops =
      ({ (c.performAll ops).1 with closed }, (c.performAll ops).2) := by
  induction ops generalizing c with
  | nil => rfl
  | cons op ops ih =>
    have hop : op ≠ .close := fun h => hops (h ▸ List.mem_cons_self)
    rw [performAll_cons, c.attempt_with_closed closed hop,
      ih _ fun h => hops (List.mem_cons_of_mem op h), performAll_cons]

/-- A client is its configuration, its bundle and the note whether it was closed. -/
lemma eq_of_fields {d : Client} (hconfig : c.config = d.config) (hbundle : c.bundle = d.bundle)
    (hclosed : c.closed = d.closed) : c = d := by
  cases c
  cases d
  simp_all

/-- What closing makes of a client after any operations, and what it asks for. -/
lemma close_performAll (hbundle : c.bundle = none) (hclosed : c.closed = false)
    (ops : List Operation) :
    (c.performAll ops).1.close = ({ c with closed := true },
      ((c.performAll ops).1.bundle.bind Bundle.close).toList.map (.send .datagram) ++
        (if .close ∉ ops ∧ c.config.onClose.unload = true then
          (Operation.unload.packet? c.config).toList.map fun packet => .send packet.1 packet.2
        else []) ++
        closeRequests c.config) := by
  obtain ⟨hconfig, hclosed'⟩ := c.performAll_stays ops
  have hclient : ({ (c.performAll ops).1 with bundle := none, closed := true } : Client) =
      { c with closed := true } := eq_of_fields hconfig hbundle.symm rfl
  have hunloading : (c.performAll ops).1.unloading =
      if .close ∉ ops ∧ c.config.onClose.unload = true then
        (Operation.unload.packet? c.config).toList.map fun packet => .send packet.1 packet.2
      else [] := by
    rw [unloading, hconfig, hclosed', hclosed]
    simp
  rw [close_eq, hclient, hunloading, hconfig]
  rfl

/-- A client that was closed, with nothing done since then, only has the transports closed. -/
lemma close_of_closed (hbundle : c.bundle = none) (hclosed : c.closed = true) :
    c.close = (c, closeRequests c.config) := by
  have hclient : ({ c with bundle := none, closed := true } : Client) = c :=
    eq_of_fields rfl hbundle.symm hclosed.symm
  rw [close_eq, hclient, endBundle, unloading, hbundle, hclosed]
  rfl

/-- Any number of threads may use a client and close it any number of times.  The project is
unloaded by the call to close that is begun first, if the configuration asks for it and there is no
zero in the base address, and by no other.

If one thread uses the client, closing sends the open bundle, then this message by itself, and then
closes both transports; the client `e` that is left asks for nothing more when it is closed again,
and is otherwise like a new one.  Closing comes to an end, and then both transports are at rest;
closing again changes nothing about them, and a message that is sent begins another session. -/
theorem closing_comes_to_rest {config : Config} (hc : ofConfig config = .ok c) :
    (Operation.unload.packet? config = none ↔ '\x00' ∈ config.baseAddress.toList) ∧
    (∀ ms s, SharedClient.Run { client := c } ms s →
      ∀ i k, s.calls[i]? = some k → k.operation = .close →
        s.submitted i =
          if s.closedBefore i = false ∧ config.onClose.unload = true ∧
            .send .unload ∉ k.deeds then (Operation.unload.packet? config).toList
          else []) ∧
    ∃ e : Client, e.config = config ∧ e.bundle = none ∧ e.closed = true ∧
      e.close = (e, closeRequests config) ∧
      (∀ more, .close ∉ more →
        e.performAll more = ({ (c.performAll more).1 with closed := true },
          (c.performAll more).2)) ∧
      ∀ ops d requests, c.performAll ops = (d, requests) →
        d.close = (e, (d.bundle.bind Bundle.close).toList.map (.send .datagram) ++
          (if .close ∉ ops ∧ config.onClose.unload = true then
            (Operation.unload.packet? config).toList.map fun packet => .send packet.1 packet.2
          else []) ++
          closeRequests config) ∧
        ∀ allowed rest es r,
          Caller.Run allowed { requests := requests ++ d.close.2 ++ rest } es r →
          es.length ≤ 17 * (requests ++ d.close.2 ++ rest).length ∧
          (r.IsDone ∨ r.CanGoOn) ∧
          (r.requests = rest → r.standing = .free → ∀ kind,
            (r.outlet kind).system.IsAtRest ∧
            (∀ more es' r', rest = closeRequests config ++ more → Caller.Run allowed r es' r' →
              r'.requests = more → (r.outlet kind).Stays (r'.outlet kind)) ∧
            ∀ message more, rest = .send kind message :: more →
              ∃ r', r.perform? .proceed = some r' ∧ r'.requests = more ∧ r'.standing = .free ∧
                (r'.outlet kind).system.sessions =
                  (r.outlet kind).system.sessions ++ [[message]] ∧
                (r'.outlet kind).system.transport.isRunning = true) := by
  obtain ⟨rfl, hbundle, hclosed⟩ := of_ofConfig hc
  refine ⟨Operation.packet?_unload_eq_none_iff c.config, ?_, { c with closed := true }, rfl,
    hbundle, rfl, close_of_closed hbundle rfl, fun more => c.performAll_with_closed true, ?_⟩
  · exact fun ms s hrun i k => (hrun.accords hclosed).submitted_of_close
  · rintro ops d requests hperform
    obtain ⟨rfl, rfl⟩ := Prod.mk.inj hperform
    refine ⟨close_performAll hbundle hclosed ops, fun allowed rest es r hrun => ?_⟩
    refine ⟨hrun.length_le, hrun.isDone_or_canGoOn, fun hr hfree kind => ?_⟩
    have hrest : (r.outlet kind).system.IsAtRest := by
      refine hrun.isAtRest hr hfree ?_
      rw [close_performAll hbundle hclosed ops, ← List.append_assoc, ← List.append_assoc]
      exact getLast?_requestsTo_close kind _ c.config
    refine ⟨hrest, ?_, ?_⟩
    · rintro more es' r' rfl hrun' hr'
      exact hrun'.stays hrun.isFounded hrest hr (sent?_of_mem_closeRequests c.config) hr'
    · rintro message more rfl
      exact Caller.exists_begins_session hrest hr hfree

/-- A client that closes while a bundle is open, and unloads by a datagram; and one that is closed
twice. -/
theorem closing_comes_to_rest_bundled :
    ofConfig datagramConfig = .ok datagramClient ∧
    (∃ ms s, SharedClient.Run { client := datagramClient } ms s ∧
      s.operations = [.close, .close] ∧ (s.submitted 0).map (·.2.length) = [20] ∧
      s.submitted 1 = []) ∧
    (datagrams (datagramClient.performAll [.startBundle, .load]).1.close.2).map List.length =
      [40, 20] ∧
    ∃ es r, Caller.Run Caller.Succeeds
        { requests := (datagramClient.performAll [.startBundle, .load]).2 ++
          (datagramClient.performAll [.startBundle, .load]).1.close.2 ++ [] } es r ∧ r.IsDone ∧
      ∀ kind, (r.outlet kind).system.IsAtRest := by
  have hc : ofConfig datagramConfig = .ok datagramClient := by rfl
  obtain ⟨-, hshared, e, -, -, -, -, -, hcloses⟩ := closing_comes_to_rest hc
  refine ⟨hc, ?_, ?_, ?_⟩
  · obtain ⟨ms, s, hrun, -, -, hcalls⟩ :=
      SharedClient.exists_run_performAll datagramClient [.close, .close]
    have hoperations : s.operations = [.close, .close] := by
      rw [SharedClient.operations, hcalls]
      rfl
    have hfirst := hshared ms s hrun 0 _ (by rw [hcalls]; rfl) rfl
    have hsecond := hshared ms s hrun 1 _ (by rw [hcalls]; rfl) rfl
    rw [SharedClient.closedBefore, hoperations] at hfirst hsecond
    refine ⟨ms, s, hrun, hoperations, ?_, hsecond⟩
    rw [hfirst]
    decide +kernel
  · decide +kernel
  · obtain ⟨es, r, hrun, hdone⟩ := Caller.exists_run_isDone
      ((datagramClient.performAll [.startBundle, .load]).2 ++
        (datagramClient.performAll [.startBundle, .load]).1.close.2 ++ [])
    obtain ⟨-, hends⟩ := hcloses [.startBundle, .load] _ _ rfl
    obtain ⟨-, -, hrest⟩ := hends _ [] es r hrun
    exact ⟨es, r, hrun, hdone, fun kind => (hrest hdone.1 hdone.2 kind).1⟩

end Client

end OscRemote
