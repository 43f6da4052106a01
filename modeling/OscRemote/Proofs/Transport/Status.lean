import OscRemote.Proofs.Transport.Wakeup

/-!
# What the parts of the shared state say of each other

The queue, the two flags, the state of the connection and the worker are written by seven different
steps, and each step writes only some of them.  `Transport.IsConsistent` says how they fit together;
so a transport is busy exactly while there is a message in its queue.

That a connection is still being made is told by a flag; that the first message cannot be taken off
the queue meanwhile is told by the task of the worker.  `System.IsConsistent` ties the two.
-/

namespace OscRemote

namespace Transport

/-- What the parts of the shared state say of each other. -/
structure IsConsistent (kind : TransportKind) (t : Transport) : Prop where
  stopped : t.worker = none → t.queue = [] ∧ t.isWriting = false ∧ t.isConnecting = false
  writing : t.isWriting = true → t.queue ≠ []
  connecting : t.isConnecting = true → t.queue ≠ [] ∧ t.state = .connecting
  stream : kind = .stream →
    (t.state = .connecting ↔ t.isConnecting = true) ∧
    (t.state = .connected ↔ t.worker ≠ none ∧ t.isConnecting = false) ∧
    (t.state = .disconnected ∨ t.state = .closed ↔ t.worker = none)
  datagram : kind = .datagram →
    t.isConnecting = false ∧ (t.state = .connected → t.worker ≠ none)

variable {kind : TransportKind} {t : Transport} {w : Nat}

lemma isConsistent_empty : IsConsistent kind {} where
  stopped _ := ⟨rfl, rfl, rfl⟩
  writing := nofun
  connecting := nofun
  stream _ := by simp
  datagram _ := by simp

/-- A message is queued for the current worker. -/
lemma IsConsistent.queue (h : t.IsConsistent kind) (hw : t.worker = some w) (message : Octets) :
    IsConsistent kind { t with queue := t.queue ++ [message] } where
  stopped hn := nomatch hw.symm.trans hn
  writing _ := List.concat_ne_nil _ _
  connecting hc := ⟨List.concat_ne_nil _ _, (h.connecting hc).2⟩
  stream := h.stream
  datagram := h.datagram

/-- A message starts a worker. -/
lemma IsConsistent.start (h : t.IsConsistent kind) (hw : t.worker = none) (message : Octets) :
    IsConsistent kind { t.start kind with queue := t.queue ++ [message] } := by
  obtain ⟨-, -, hconnecting⟩ := h.stopped hw
  cases kind with
  | stream =>
    exact {
      stopped := nofun
      writing := fun _ => List.concat_ne_nil _ _
      connecting := fun _ => ⟨List.concat_ne_nil _ _, rfl⟩
      stream := fun _ => by simp [Transport.start]
      datagram := nofun }
  | datagram =>
    exact {
      stopped := nofun
      writing := fun _ => List.concat_ne_nil _ _
      connecting := fun hc => nomatch hconnecting.symm.trans hc
      stream := nofun
      datagram := fun _ => ⟨hconnecting, fun _ => nofun⟩ }

/-- Everything is discarded. -/
lemma isConsistent_discard {state : ConnectionState} (h : state = .disconnected ∨ state = .closed) :
    (t.discard state).IsConsistent kind where
  stopped _ := ⟨rfl, rfl, rfl⟩
  writing := nofun
  connecting := nofun
  stream _ := by rcases h with rfl | rfl <;> simp [discard]
  datagram _ := by rcases h with rfl | rfl <;> simp [discard]

/-- The current worker has opened its connection or socket. -/
lemma IsConsistent.connect (h : t.IsConsistent kind) (hw : t.worker = some w) :
    (t.connect kind).IsConsistent kind where
  stopped hn := by simp [hw] at hn
  writing hwriting := by
    rw [connect_queue]
    cases kind <;> exact h.writing hwriting
  connecting hc := by
    cases kind with
    | stream => cases hc
    | datagram => exact nomatch (h.datagram rfl).1.symm.trans hc
  stream hk := by
    subst hk
    simp [Transport.connect, hw]
  datagram hk := by
    subst hk
    simp [Transport.connect, hw, (h.datagram rfl).1]

/-- The current worker takes up a message. -/
lemma IsConsistent.beginWrite (h : t.IsConsistent kind) (hw : t.worker = some w)
    (hq : t.queue ≠ []) : t.beginWrite.IsConsistent kind where
  stopped hn := nomatch hw.symm.trans hn
  writing _ := hq
  connecting := h.connecting
  stream := h.stream
  datagram := h.datagram

/-- The current worker takes a message off the queue: the flag for writing stays as long as there
are more. -/
lemma IsConsistent.endWrite (h : t.IsConsistent kind) (hw : t.worker = some w)
    (hc : t.isConnecting = false) : t.endWrite.IsConsistent kind where
  stopped hn := nomatch hw.symm.trans hn
  writing hwriting := by
    have hboth : t.isWriting = true ∧ t.queue.tail ≠ [] := by
      simpa [Transport.endWrite] using hwriting
    exact hboth.2
  connecting hc' := nomatch hc.symm.trans hc'
  stream := h.stream
  datagram := h.datagram

/-- A transport is busy exactly while there is a message in its queue. -/
lemma IsConsistent.isBusy_iff (h : t.IsConsistent kind) : t.isBusy = true ↔ t.queue ≠ [] := by
  constructor
  · intro hbusy
    simp only [isBusy, Bool.or_eq_true, Bool.not_eq_true', List.isEmpty_eq_false_iff] at hbusy
    rcases hbusy with (hq | hwriting) | hconnecting
    · exact hq
    · exact h.writing hwriting
    · exact (h.connecting hconnecting).1
  · exact System.isBusy_of_queue

end Transport

namespace System

variable {kind : TransportKind} {s s' : System} {a : Action}

/-- The shared state is consistent, and while it says that a connection is being made, the current
worker is at it. -/
structure IsConsistent (kind : TransportKind) (s : System) : Prop where
  transport : s.transport.IsConsistent kind
  opening : ∀ w k, s.workers[w]? = some k → s.transport.worker = some w →
    s.transport.isConnecting = true → k.task = .opening

/-- What one worker does to the shared state. -/
lemma IsConsistent.act {w : Nat} {k k' : Worker} {t' : Transport} (h : s.IsConsistent kind)
    (hk : s.workers[w]? = some k) (hstep : Worker.Step kind w s.transport k a t' k') :
    t'.IsConsistent kind := by
  cases hstep with
  | accept message hw => exact h.transport.queue hw message
  | tellToStop hw => exact Transport.isConsistent_discard (Or.inr rfl)
  | opened ht hw => exact h.transport.connect hw
  | fail hw ha =>
    obtain ⟨-, -, rfl⟩ | ⟨-, -, rfl⟩ := ha
    · exact Transport.isConsistent_discard (Or.inl rfl)
    · exact Transport.isConsistent_discard (Or.inr rfl)
  | fetch ht hw hq =>
    refine h.transport.beginWrite hw ?_
    rw [hq]
    exact List.cons_ne_nil _ _
  | complete ht hw =>
    refine h.transport.endWrite hw ?_
    cases hc : s.transport.isConnecting with
    | false => rfl
    | true => exact nomatch ht.symm.trans (h.opening w k hk hw hc)
  | park | wake | stop | fetchNothing | write | leaveWaiting | leave => exact h.transport

/-- A worker that opens goes on to another task only when the connection is made, or when it is told
to end, which the current worker is not. -/
lemma IsConsistent.opening_act {w : Nat} {k k' : Worker} {t' : Transport}
    (h : s.IsConsistent kind) (hk : s.workers[w]? = some k)
    (hattends : Worker.Attends w s.transport k)
    (hstep : Worker.Step kind w s.transport k a t' k') (hw : t'.worker = some w)
    (hc : t'.isConnecting = true) : k'.task = .opening := by
  have hopening := h.opening w k hk
  cases hstep with
  | accept message => exact hopening hw hc
  | park hp =>
    obtain ⟨wake, stop, rfl, -⟩ := Worker.park?_eq_some hp
    exact hopening hw hc
  | wake hp =>
    obtain ⟨wake, ht, -, -⟩ := Worker.resume?_eq_some hp
    exact nomatch ht.symm.trans (hopening hw hc)
  | stop hp =>
    obtain ⟨stop, -, hstop, -⟩ := Worker.stop?_eq_some hp
    exact nomatch (hattends.notStopped hw).symm.trans (Signal.receive?_eq_some hstop).1
  | opened ht hw' =>
    cases kind with
    | stream => cases hc
    | datagram => exact nomatch (h.transport.datagram rfl).1.symm.trans hc
  | tellToStop | fail => cases hw
  | fetch ht | fetchNothing ht | write ht => exact nomatch ht.symm.trans (hopening hw hc)
  | complete ht hw' => exact nomatch ht.symm.trans (hopening hw' hc)
  | leaveWaiting ha hne | leave hne ha => exact absurd hw hne

lemma Path.isConsistent {as : List Action} (h : Path kind {} as s) : s.IsConsistent kind := by
  refine h.induction (motive := fun _ s => s.IsConsistent kind) ?_ ?_
  · refine ⟨Transport.isConsistent_empty, ?_⟩
    intro w k hk
    cases hk
  · intro as a s s' hp hs ih
    refine ⟨?_, ?_⟩
    · rcases hs.worker_cases hp.ordered with ⟨w, k, k', hk, hstep, -⟩ | ⟨message, -, hw, ht, -⟩ |
        ⟨-, -, ht, -⟩ | ⟨-, ht, -⟩
      · exact ih.act hk hstep
      · rw [ht]
        exact ih.transport.start hw message
      · rw [ht]
        exact Transport.isConsistent_discard (Or.inr rfl)
      · rw [ht]
        exact ih.transport
    · refine hs.forall_workers hp.ordered ?_ ?_ ?_ ih.opening (P := fun w t k =>
        t.worker = some w → t.isConnecting = true → k.task = .opening)
      · exact fun _ hne _ hw => absurd hw hne
      · exact fun _ _ _ _ _ => rfl
      · exact fun hk hstep _ => ih.opening_act hk (hp.attends _ _ hk) hstep

/-- In whatever a run of callers and workers leads to, the queue, the flags, the state of the
connection and the worker fit together, and the transport is busy exactly while there is a message
in its queue. -/
theorem Reachable.state_isConsistent (h : Reachable kind s) :
    s.transport.IsConsistent kind ∧ (s.transport.isBusy = true ↔ s.transport.queue ≠ []) := by
  obtain ⟨as, hpath⟩ := h
  have hconsistent := hpath.isConsistent.transport
  exact ⟨hconsistent, hconsistent.isBusy_iff⟩

theorem state_isConsistent_restart : ∃ s : System, Path .stream {} restart s ∧
    s.transport.queue = [[4]] ∧ s.transport.isWriting = false ∧ s.transport.worker = some 1 ∧
    s.transport.IsConsistent .stream ∧ s.transport.isBusy = true := by
  have h : ∃ s : System, restart.foldlM (fun s a => perform? s .stream a) {} = some s ∧
      s.transport.queue = [[4]] ∧ s.transport.isWriting = false ∧ s.transport.worker = some 1 :=
    ⟨_, rfl, rfl, rfl, rfl⟩
  obtain ⟨s, hs, hq, hwriting, hw⟩ := h
  obtain ⟨hconsistent, hbusy⟩ := Reachable.state_isConsistent ⟨_, path_of_foldlM hs⟩
  exact ⟨s, path_of_foldlM hs, hq, hwriting, hw, hconsistent, hbusy.2 (by simp [hq])⟩

end System

end OscRemote
