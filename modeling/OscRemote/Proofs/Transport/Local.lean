import Mathlib.Data.List.Basic
import OscRemote.Proofs.Transport.Session

/-!
# A step as one worker sees it

Most of what can happen to a transport concerns one worker: the worker acts, or a caller sends or
closes while the worker is the current one.  `Worker.Step` says what becomes of that worker and of
the shared state; `System.Step.worker_cases` says that besides there are only the start of a worker,
closing without one, and what callers do among themselves.

So what is to hold of every worker that was ever started is proved of one worker at a time, and
`System.Step.forall_workers` carries it over: to the other workers it makes no difference what
happens, because none of them is the current one before or after.
-/

namespace OscRemote

/-- Callers begin to wait, look whether they have to, give up, or are told to look again. -/
def Action.IsAmongCallers : Action → Prop
  | .await _ | .check _ | .giveUp _ | .notice => True
  | _ => False

namespace Worker

variable {kind : TransportKind} {w : Nat} {t t' : Transport} {k k' : Worker} {a : Action}

/-- What a worker reports that has waited for its connection, or for a write. -/
def Reports (k : Worker) (w : Nat) (a : Action) : Prop :=
  (a = .opened w ∨ a = .openFailed w) ∧ k.task = .opening ∨
    a = .writeFailed w ∧ ∃ message, k.task = .writing message

/-- What becomes of worker `w` and of the shared state when it acts, or when a caller sends or
closes while it is the current one. -/
inductive Step (kind : TransportKind) (w : Nat) (t : Transport) (k : Worker) :
    Action → Transport → Worker → Prop
  | accept (message : Octets) (hw : t.worker = some w) :
      Step kind w t k (.send message) { t with queue := t.queue ++ [message] } (k.accept message)
  | tellToStop (hw : t.worker = some w) : Step kind w t k .close t.close k.tellToStop
  | park {k' : Worker} (hp : k.park? = some k') : Step kind w t k (.park w) t k'
  | wake {k' : Worker} (hp : k.resume? = some k') : Step kind w t k (.wake w) t k'
  | stop {k' : Worker} (hp : k.stop? = some k') : Step kind w t k (.stop w) t k'
  | opened (ht : k.task = .opening) (hw : t.worker = some w) :
      Step kind w t k (.opened w) (t.connect kind) (k.turnTo .ready)
  | fail {a : Action} {state : ConnectionState} (hw : t.worker = some w)
      (ha : a = .openFailed w ∧ k.task = .opening ∧ state = .disconnected ∨
        a = .writeFailed w ∧ (∃ message, k.task = .writing message) ∧ state = .closed) :
      Step kind w t k a (t.discard state) (k.turnTo .ended)
  | fetch {message : Octets} {rest : List Octets} (ht : k.task = .ready) (hw : t.worker = some w)
      (hq : t.queue = message :: rest) :
      Step kind w t k (.fetch w) t.beginWrite
        { k with task := .writing message, fetched := k.fetched ++ [message] }
  | fetchNothing (ht : k.task = .ready) (hw : t.worker = some w) (hq : t.queue = []) :
      Step kind w t k (.fetch w) t { k with task := .idle }
  | write {message : Octets} (ht : k.task = .writing message) :
      Step kind w t k (.write w) t
        { k.turnTo (.wrote message) with written := k.written ++ [message] }
  | complete {message : Octets} (ht : k.task = .wrote message) (hw : t.worker = some w) :
      Step kind w t k (.complete w) t.endWrite
        { k with task := .ready, popped := k.popped ++ t.queue.take 1 }
  | leaveWaiting {a : Action} (ha : k.Reports w a) (hw : t.worker ≠ some w) :
      Step kind w t k a t (k.turnTo .ended)
  | leave {a : Action} (hw : t.worker ≠ some w)
      (ha : a = .fetch w ∧ k.task = .ready ∨ a = .complete w ∧ ∃ message, k.task = .wrote message) :
      Step kind w t k a t { k with task := .ended }

/-- No other worker is the current one before or after the shared state changes. -/
lemma Step.eq_or_of_ne {i : Nat} (h : Step kind w t k a t' k') (hi : i ≠ w) :
    t' = t ∨ t.worker ≠ some i ∧ t'.worker ≠ some i := by
  have hne : t.worker = some w → t.worker ≠ some i := by
    intro hw heq
    exact hi (Option.some.inj (heq.symm.trans hw))
  cases h with
  | accept message hw => exact Or.inr ⟨hne hw, hne hw⟩
  | tellToStop hw => exact Or.inr ⟨hne hw, nofun⟩
  | opened ht hw => exact Or.inr ⟨hne hw, by simpa using hne hw⟩
  | fail hw ha => exact Or.inr ⟨hne hw, nofun⟩
  | fetch ht hw hq => exact Or.inr ⟨hne hw, hne hw⟩
  | complete ht hw => exact Or.inr ⟨hne hw, hne hw⟩
  | park | wake | stop | fetchNothing | write | leaveWaiting | leave => exact Or.inl rfl

end Worker

namespace System

variable {kind : TransportKind} {s s' : System} {a : Action}

/-- The current worker is among those that were started. -/
lemma Ordered.exists_current {w : Nat} (h : s.Ordered) (hw : s.transport.worker = some w) :
    ∃ k, s.workers[w]? = some k := by
  have hlast := h.last w hw
  exact ⟨s.workers[w], List.getElem?_eq_getElem (by omega)⟩

lemma modify_eq_set {w : Nat} {k : Worker} {f : Worker → Worker} (hk : s.workers[w]? = some k) :
    s.workers.modify w f = s.workers.set w (f k) := by
  rw [List.modify_eq_set_getElem?, hk]
  rfl

/-- A step concerns one worker, or it starts a worker, or there is no worker and the transport is
closed, or nothing changes but what callers do among themselves. -/
lemma Step.worker_cases (hs : Step kind s a s') (h : s.Ordered) :
    (∃ w k k', s.workers[w]? = some k ∧ Worker.Step kind w s.transport k a s'.transport k' ∧
      s'.workers = s.workers.set w k') ∨
    (∃ message, a = .send message ∧ s.transport.worker = none ∧
      s'.transport = { s.transport.start kind with queue := s.transport.queue ++ [message] } ∧
      s'.workers = s.workers ++ [{ accepted := [message] }]) ∨
    (a = .close ∧ s.transport.worker = none ∧ s'.transport = s.transport.close ∧
      s'.workers = s.workers) ∨
    (a.IsAmongCallers ∧ s'.transport = s.transport ∧ s'.workers = s.workers) := by
  cases hs with
  | queue message hw =>
    obtain ⟨k, hk⟩ := h.exists_current hw
    exact Or.inl ⟨_, k, _, hk, .accept message hw, modify_eq_set hk⟩
  | start message hw => exact Or.inr (Or.inl ⟨message, rfl, hw, rfl, rfl⟩)
  | close hw =>
    obtain ⟨k, hk⟩ := h.exists_current hw
    exact Or.inl ⟨_, k, _, hk, .tellToStop hw, modify_eq_set hk⟩
  | closeAgain hw => exact Or.inr (Or.inr (Or.inl ⟨rfl, hw, rfl, rfl⟩))
  | await | check | giveUp | notice => exact Or.inr (Or.inr (Or.inr ⟨trivial, rfl, rfl⟩))
  | park hk hp => exact Or.inl ⟨_, _, _, hk, .park hp, rfl⟩
  | wake hk hp => exact Or.inl ⟨_, _, _, hk, .wake hp, rfl⟩
  | stop hk hp => exact Or.inl ⟨_, _, _, hk, .stop hp, rfl⟩
  | opened hk ht hw => exact Or.inl ⟨_, _, _, hk, .opened ht hw, rfl⟩
  | openFailed hk ht hw => exact Or.inl ⟨_, _, _, hk, .fail hw (Or.inl ⟨rfl, ht, rfl⟩), rfl⟩
  | fetch hk ht hw hq => exact Or.inl ⟨_, _, _, hk, .fetch ht hw hq, rfl⟩
  | fetchNothing hk ht hw hq => exact Or.inl ⟨_, _, _, hk, .fetchNothing ht hw hq, rfl⟩
  | write hk ht => exact Or.inl ⟨_, _, _, hk, .write ht, rfl⟩
  | writeFailed hk ht hw =>
    exact Or.inl ⟨_, _, _, hk, .fail hw (Or.inr ⟨rfl, ⟨_, ht⟩, rfl⟩), rfl⟩
  | complete hk ht hw => exact Or.inl ⟨_, _, _, hk, .complete ht hw, rfl⟩
  | leaveWaiting hk ha hw => exact Or.inl ⟨_, _, _, hk, .leaveWaiting ha hw, rfl⟩
  | leave hk ha hw => exact Or.inl ⟨_, _, _, hk, .leave hw ha, rfl⟩

/-- What holds of every worker holds after a step, if it does so of the worker that the step
concerns and of one that is started.  It may depend on the shared state only for the current
worker. -/
lemma Step.forall_workers {P : Nat → Transport → Worker → Prop} (hs : Step kind s a s')
    (ho : s.Ordered)
    (other : ∀ {w t t' k}, t.worker ≠ some w → t'.worker ≠ some w → P w t k → P w t' k)
    (start : ∀ message, a = .send message →
      s'.transport = { s.transport.start kind with queue := [message] } →
      P s.transport.started s'.transport { accepted := [message] })
    (act : ∀ {w k k'}, s.workers[w]? = some k →
      Worker.Step kind w s.transport k a s'.transport k' → P w s.transport k →
      P w s'.transport k')
    (h : ∀ w k, s.workers[w]? = some k → P w s.transport k) :
    ∀ w k, s'.workers[w]? = some k → P w s'.transport k := by
  intro i x hx
  rcases hs.worker_cases ho with ⟨w, k, k', hk, hstep, hworkers⟩ |
    ⟨message, rfl, hw, ht, hworkers⟩ | ⟨rfl, hw, ht, hworkers⟩ | ⟨-, ht, hworkers⟩
  · rw [hworkers] at hx
    rcases worker_setWorker hx with ⟨rfl, rfl⟩ | ⟨hne, hx⟩
    · exact act hk hstep (h i k hk)
    · rcases hstep.eq_or_of_ne hne with ht | ⟨hi, hi'⟩
      · rw [ht]
        exact h i x hx
      · exact other hi hi' (h i x hx)
  · rw [hworkers] at hx
    rcases worker_append hx with ⟨rfl, rfl⟩ | ⟨hlt, hx⟩
    · rw [ho.stopped hw, List.nil_append] at ht
      rw [← ho.started]
      exact start message rfl ht
    · refine other (by simp [hw]) ?_ (h i x hx)
      have hstarted := ho.started
      simp only [ht, Transport.start_worker, ne_eq, Option.some.injEq]
      omega
  · rw [hworkers] at hx
    refine other (by simp [hw]) ?_ (h i x hx)
    rw [ht]
    nofun
  · rw [hworkers] at hx
    rw [ht]
    exact h i x hx

end System

end OscRemote
