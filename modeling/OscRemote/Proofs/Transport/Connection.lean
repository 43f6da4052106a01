import OscRemote.Proofs.Transport.Status

/-!
# How the state of a connection changes

Five things change the state that a stream shows, each along edges of its own; `Transport.Turns`
lists them.  The functions that write the state do not look at what it was before, so that nothing
else happens is a matter of who calls them when: whoever reports on a connection was opening one,
and whoever reports on a write had opened one before.

What ties the task of the current worker to the state is that it opens its connection exactly as
long as the state says so.  One half of this is part of `System.IsConsistent`, the other is
`System.Path.isConnecting_of_opening`.
-/

namespace OscRemote

/-- The worker whose action it is. -/
def Action.worker? : Action → Option Nat
  | .park w | .wake w | .stop w | .opened w | .openFailed w | .fetch w | .write w | .writeFailed w
  | .complete w => some w
  | .send _ | .close | .await _ | .check _ | .giveUp _ | .notice => none

/-- The state of a stream changes by an action: a message starts a worker, the current worker
reports on its connection or on a write that failed, or a caller closes. -/
inductive Transport.Turns (t : Transport) : Action → ConnectionState → Prop
  | starts (message : Octets) (hw : t.worker = none)
      (hstate : t.state = .disconnected ∨ t.state = .closed) : t.Turns (.send message) .connecting
  | connects {w : Nat} (hw : t.worker = some w) (hstate : t.state = .connecting) :
      t.Turns (.opened w) .connected
  | fails {w : Nat} (hw : t.worker = some w) (hstate : t.state = .connecting) :
      t.Turns (.openFailed w) .disconnected
  | breaks {w : Nat} (hw : t.worker = some w) (hstate : t.state = .connected) :
      t.Turns (.writeFailed w) .closed
  | closes : t.Turns .close .closed

namespace System

variable {kind : TransportKind} {s s' : System} {a : Action} {w : Nat} {k : Worker}

/-- A worker that was replaced ends by an action of its own. -/
lemma worker?_of_leaves
    (ha : ((a = .opened w ∨ a = .openFailed w) ∧ k.task = .opening ∨
        a = .writeFailed w ∧ ∃ message, k.task = .writing message) ∨
      (a = .fetch w ∧ k.task = .ready ∨ a = .complete w ∧ ∃ message, k.task = .wrote message)) :
    a.worker? = some w := by
  obtain (⟨rfl | rfl, -⟩ | ⟨rfl, -⟩) | ⟨rfl, -⟩ | ⟨rfl, -⟩ := ha <;> rfl

/-- A worker that is the current one no longer leaves the shared state alone. -/
lemma Step.transport_eq_of_worker? (hs : Step kind s a s') (ha : a.worker? = some w)
    (hw : s.transport.worker ≠ some w) : s'.transport = s.transport := by
  cases hs with
  | queue | start | close | closeAgain | await | check | giveUp | notice => cases ha
  | opened _ _ hcurrent | openFailed _ _ hcurrent | fetch _ _ hcurrent
  | writeFailed _ _ hcurrent | complete _ _ hcurrent => exact absurd (ha ▸ hcurrent) hw
  | park | wake | stop | fetchNothing | write | leaveWaiting | leave => rfl

/-- While the current worker of a stream opens its connection, the shared state says so. -/
lemma Path.isConnecting_of_opening {as : List Action} (h : Path .stream {} as s)
    (hk : s.workers[w]? = some k) (hw : s.transport.worker = some w) (ht : k.task = .opening) :
    s.transport.isConnecting = true := by
  refine h.induction (motive := fun _ s => ∀ w k, s.workers[w]? = some k →
    s.transport.worker = some w → k.task = .opening → s.transport.isConnecting = true) ?_ ?_
    w k hk hw ht
  · intro w k hk
    cases hk
  intro as a s s' hp hs ih
  refine hs.forall_workers hp.ordered (P := fun w t k =>
    t.worker = some w → k.task = .opening → t.isConnecting = true) ?_ ?_ ?_ ih
  · exact fun _ hne _ hw => absurd hw hne
  · intro message _ ht _ _
    rw [ht]
    rfl
  · intro w k k' _ hstep hopening
    generalize s'.transport = t' at hstep
    cases hstep with
    | accept => exact hopening
    | park hp =>
      obtain ⟨wake, stop, rfl, -⟩ := Worker.park?_eq_some hp
      exact hopening
    | wake hp =>
      obtain ⟨wake, -, -, rfl⟩ := Worker.resume?_eq_some hp
      exact nofun
    | stop hp =>
      obtain ⟨stop, -, -, rfl⟩ := Worker.stop?_eq_some hp
      exact nofun
    | tellToStop | opened | fail | fetch | fetchNothing | write | complete | leaveWaiting
    | leave => exact nofun

/-- The current worker of a stream opens its connection while the state says so. -/
lemma Path.state_of_opening {as : List Action} (h : Path .stream {} as s)
    (hk : s.workers[w]? = some k) (hw : s.transport.worker = some w) (ht : k.task = .opening) :
    s.transport.state = .connecting :=
  (h.isConsistent.transport.connecting (h.isConnecting_of_opening hk hw ht)).2

/-- The current worker of a stream has a connection once it does not open one any more. -/
lemma Path.state_of_not_opening {as : List Action} (h : Path .stream {} as s)
    (hk : s.workers[w]? = some k) (hw : s.transport.worker = some w) (ht : k.task ≠ .opening) :
    s.transport.state = .connected := by
  have hconnecting : s.transport.isConnecting = false := by
    cases hc : s.transport.isConnecting with
    | false => rfl
    | true => exact absurd (h.isConsistent.opening w k hk hw hc) ht
  obtain ⟨-, hconnected, -⟩ := h.isConsistent.transport.stream rfl
  exact hconnected.2 ⟨by simp [hw], hconnecting⟩

/-- Whatever happens, the state of a stream stays as it is or turns. -/
lemma Step.state_eq_or_turns {as : List Action} (hs : Step .stream s a s')
    (h : Path .stream {} as s) : s'.transport.state = s.transport.state ∨
      s.transport.Turns a s'.transport.state := by
  cases hs with
  | start message hw =>
    obtain ⟨-, -, hstopped⟩ := h.isConsistent.transport.stream rfl
    exact Or.inr (.starts message hw (hstopped.2 hw))
  | close | closeAgain => exact Or.inr .closes
  | opened hk ht hw => exact Or.inr (.connects hw (h.state_of_opening hk hw ht))
  | openFailed hk ht hw => exact Or.inr (.fails hw (h.state_of_opening hk hw ht))
  | writeFailed hk ht hw =>
    exact Or.inr (.breaks hw (h.state_of_not_opening hk hw (by rw [ht]; nofun)))
  | queue | await | check | giveUp | notice | park | wake | stop | fetch | fetchNothing | write
  | complete | leaveWaiting | leave => exact Or.inl rfl

/-- What turns the state of a stream does so. -/
lemma Step.state_of_turns {state : ConnectionState} (hs : Step .stream s a s')
    (ht : s.transport.Turns a state) : s'.transport.state = state := by
  cases ht with
  | starts message hw =>
    obtain ⟨w, hw', -⟩ | ⟨-, rfl⟩ := hs.of_send
    · cases hw.symm.trans hw'
    · rfl
  | closes => obtain ⟨w, -, rfl⟩ | ⟨-, rfl⟩ := hs.of_close <;> rfl
  | connects hw =>
    cases hs with
    | opened => rfl
    | leaveWaiting _ ha hne => exact absurd (hw.trans (worker?_of_leaves (Or.inl ha))) hne
    | leave _ ha hne => exact absurd (hw.trans (worker?_of_leaves (Or.inr ha))) hne
  | fails hw =>
    cases hs with
    | openFailed => rfl
    | leaveWaiting _ ha hne => exact absurd (hw.trans (worker?_of_leaves (Or.inl ha))) hne
    | leave _ ha hne => exact absurd (hw.trans (worker?_of_leaves (Or.inr ha))) hne
  | breaks hw =>
    cases hs with
    | writeFailed => rfl
    | leaveWaiting _ ha hne => exact absurd (hw.trans (worker?_of_leaves (Or.inl ha))) hne
    | leave _ ha hne => exact absurd (hw.trans (worker?_of_leaves (Or.inr ha))) hne

/-- In every run of a stream, with any callers and workers, each action changes the state along the
edges of `Transport.Turns` and for their causes, and not otherwise.  So no connection is lost
without a sign, none is made without a worker that opens it, and only whoever closes ends the
opening of one by closing; and a worker that is the current one no longer changes nothing. -/
theorem Reachable.state_turns (h : Reachable .stream s) (hs : s.perform? .stream a = some s') :
    (s'.transport.state = s.transport.state ∨ s.transport.Turns a s'.transport.state) ∧
    (∀ state, s.transport.Turns a state → s'.transport.state = state) ∧
    (s.transport.state, s'.transport.state) ∉
      [(.connected, .disconnected), (.closed, .connected), (.disconnected, .connected)] ∧
    (s.transport.state = .connecting → s'.transport.state = .closed → a = .close) ∧
    (∀ w, a.worker? = some w → s.transport.worker ≠ some w → s'.transport = s.transport) := by
  obtain ⟨as, hpath⟩ := h
  have hstep := step_of_perform? hs
  have hturns := hstep.state_eq_or_turns hpath
  refine ⟨hturns, fun state => hstep.state_of_turns, ?_, ?_, ?_⟩
  · generalize s'.transport.state = state at hturns
    rcases hturns with rfl | hturns
    · cases s.transport.state <;> decide
    · cases hturns with
      | starts | closes => simp
      | connects _ hstate | fails _ hstate | breaks _ hstate => simp [hstate]
  · intro hbefore hafter
    rw [hbefore, hafter] at hturns
    rcases hturns with heq | hturns
    · cases heq
    · cases hturns with
      | closes => rfl
      | breaks _ hstate => cases hbefore.symm.trans hstate
  · exact fun w => hstep.transport_eq_of_worker?

/-- While a second worker opens its connection, the first, which was told to end while it wrote,
fails to write. -/
theorem state_turns_replaced : ∃ s s₀ s₁ : System,
    Path .stream {} [.send [1], .opened 0, .fetch 0, .close, .send [2]] s ∧
    s.transport.state = .connecting ∧
    s.perform? .stream (.writeFailed 0) = some s₀ ∧ s₀.transport = s.transport ∧
    s.perform? .stream (.opened 1) = some s₁ ∧ s₁.transport.state = .connected := by
  have h : ∃ s s₀ s₁ : System,
      [.send [1], .opened 0, .fetch 0, .close, .send [2]].foldlM
        (fun s a => perform? s .stream a) {} = some s ∧
      s.transport.state = .connecting ∧ s.transport.worker = some 1 ∧
      s.perform? .stream (.writeFailed 0) = some s₀ ∧ s.perform? .stream (.opened 1) = some s₁ :=
    ⟨_, _, _, rfl, rfl, rfl, rfl, rfl⟩
  obtain ⟨s, s₀, s₁, hs, hstate, hw, hs₀, hs₁⟩ := h
  have hpath := path_of_foldlM hs
  obtain ⟨-, -, -, -, hdetached⟩ := Reachable.state_turns ⟨_, hpath⟩ hs₀
  obtain ⟨-, hturns, -⟩ := Reachable.state_turns ⟨_, hpath⟩ hs₁
  exact ⟨s, s₀, s₁, hpath, hstate, hs₀, hdetached 0 rfl (by simp [hw]), hs₁,
    hturns _ (.connects hw hstate)⟩

end System

end OscRemote
