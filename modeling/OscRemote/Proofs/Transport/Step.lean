import Mathlib.Data.List.Induction
import Mathlib.Tactic.Lemma
import OscRemote.Transport.System

/-!
# The steps of a transport

`System.perform?` computes what becomes of a system.  Here the same is a relation: `System.Step` has
one constructor for everything that can happen, with the conditions under which it happens and the
system that comes of it written out, and `perform?_eq_some_iff` says that there is nothing else.  An
invariant is proved by cases on a step and not by opening the functions again.

A step changes at most one worker, so the look-up lemmas of the first part tell in each case whether
a worker is that one, and `Path.induction` carries what steps keep along a run.
-/

namespace OscRemote

namespace Transport

variable (t : Transport)

@[simp] lemma isCurrent_iff (w : Nat) : t.isCurrent w = true ↔ t.worker = some w := by
  simp [isCurrent]

@[simp] lemma start_queue (kind : TransportKind) : (t.start kind).queue = t.queue := by
  cases kind <;> rfl

@[simp] lemma start_worker (kind : TransportKind) : (t.start kind).worker = some t.started := by
  cases kind <;> rfl

@[simp] lemma start_started (kind : TransportKind) : (t.start kind).started = t.started + 1 := by
  cases kind <;> rfl

@[simp] lemma connect_queue (kind : TransportKind) : (t.connect kind).queue = t.queue := by
  cases kind <;> rfl

@[simp] lemma connect_worker (kind : TransportKind) : (t.connect kind).worker = t.worker := by
  cases kind <;> rfl

@[simp] lemma connect_started (kind : TransportKind) : (t.connect kind).started = t.started := by
  cases kind <;> rfl

lemma send_queue (kind : TransportKind) (message : Octets) :
    (t.send kind message).queue = t.queue ++ [message] := by
  unfold send
  split <;> simp

lemma isRunning_send (kind : TransportKind) (message : Octets) :
    (t.send kind message).isRunning = true := by
  unfold send
  split
  case isTrue hrunning => exact hrunning
  case isFalse => simp [isRunning]

end Transport

namespace Worker

/-- A worker that was told of another message. -/
def accept (k : Worker) (message : Octets) : Worker :=
  { k with wake := k.wake.notify, accepted := k.accepted ++ [message] }

/-- A worker that was told to end. -/
def tellToStop (k : Worker) : Worker := { k with stop := k.stop.notify }

variable {k k' : Worker}

/-- A worker parks at the signal for its end, and at the one for more messages if it waits for
these; nothing else changes. -/
lemma park?_eq_some (h : k.park? = some k') :
    ∃ wake stop, k' = { k with wake, stop } ∧ k.stop.park? = some stop ∧
      (k.task = .idle ∧ k.wake.park? = some wake ∨
        k.task.isWaiting = true ∧ k.task ≠ .idle ∧ wake = k.wake) := by
  rw [park?] at h
  split at h
  case h_1 ht =>
    obtain ⟨wake, hwake, h⟩ := Option.bind_eq_some_iff.1 h
    obtain ⟨stop, hstop, h⟩ := Option.bind_eq_some_iff.1 h
    exact ⟨wake, stop, (Option.some.inj h).symm, hstop, Or.inl ⟨ht, hwake⟩⟩
  case h_2 ht =>
    obtain ⟨stop, hstop, h⟩ := Option.bind_eq_some_iff.1 h
    exact ⟨k.wake, stop, (Option.some.inj h).symm, hstop, Or.inr (by simp [ht, Task.isWaiting])⟩
  case h_3 message ht =>
    obtain ⟨stop, hstop, h⟩ := Option.bind_eq_some_iff.1 h
    exact ⟨k.wake, stop, (Option.some.inj h).symm, hstop, Or.inr (by simp [ht, Task.isWaiting])⟩
  case h_4 => cases h

/-- A worker goes on only from waiting for more messages. -/
lemma resume?_eq_some (h : k.resume? = some k') :
    ∃ wake, k.task = .idle ∧ k.wake.receive? = some wake ∧
      k' = { k with task := .ready, wake, stop := k.stop.leave } := by
  rw [resume?] at h
  split at h
  case h_1 ht =>
    obtain ⟨wake, hwake, h⟩ := Option.bind_eq_some_iff.1 h
    exact ⟨wake, ht, hwake, (Option.some.inj h).symm⟩
  case h_2 => cases h

/-- A worker is stopped only while it waits. -/
lemma stop?_eq_some (h : k.stop? = some k') :
    ∃ stop, k.task.isWaiting = true ∧ k.stop.receive? = some stop ∧
      k' = { k with task := .ended, wake := k.wake.leave, stop } := by
  rw [stop?] at h
  split at h
  case isTrue ht =>
    obtain ⟨stop, hstop, h⟩ := Option.bind_eq_some_iff.1 h
    exact ⟨stop, ht, hstop, (Option.some.inj h).symm⟩
  case isFalse => cases h

end Worker

/-! ## Looking up a worker after a change -/

namespace System

variable {s : System}

/-- After one worker was replaced, a worker is the new one or one of the others. -/
lemma worker_setWorker {w i : Nat} {k' x : Worker} (h : (s.setWorker w k').workers[i]? = some x) :
    (i = w ∧ x = k') ∨ (i ≠ w ∧ s.workers[i]? = some x) := by
  rw [setWorker, List.getElem?_set] at h
  by_cases hi : w = i
  · subst hi
    rw [if_pos rfl] at h
    split at h
    · exact Or.inl ⟨rfl, (Option.some.inj h).symm⟩
    · simp at h
  · rw [if_neg hi] at h
    exact Or.inr ⟨fun heq => hi heq.symm, h⟩

/-- After one worker was changed, a worker is the changed one or one of the others. -/
lemma worker_modifyWorker {w i : Nat} {f : Worker → Worker} {x : Worker}
    (h : (s.modifyWorker w f).workers[i]? = some x) :
    (i = w ∧ ∃ k, s.workers[w]? = some k ∧ x = f k) ∨ (i ≠ w ∧ s.workers[i]? = some x) := by
  rw [modifyWorker, List.getElem?_modify] at h
  by_cases hi : w = i
  · subst hi
    rw [Option.map_eq_map, Option.map_eq_some_iff] at h
    obtain ⟨k, hk, hx⟩ := h
    exact Or.inl ⟨rfl, k, hk, by simpa using hx.symm⟩
  · simp only [hi, if_false, Option.map_eq_map, Option.map_id_fun', id] at h
    exact Or.inr ⟨fun heq => hi heq.symm, h⟩

/-- After a worker was started, a worker is the new one or one of those before it. -/
lemma worker_append {i : Nat} {k x : Worker} (h : (s.workers ++ [k])[i]? = some x) :
    (i = s.workers.length ∧ x = k) ∨ (i < s.workers.length ∧ s.workers[i]? = some x) := by
  by_cases hi : i < s.workers.length
  · rw [List.getElem?_append_left hi] at h
    exact Or.inr ⟨hi, h⟩
  · rw [List.getElem?_append_right (Nat.le_of_not_lt hi), List.getElem?_singleton] at h
    split at h
    · exact Or.inl ⟨by omega, (Option.some.inj h).symm⟩
    · simp at h

@[simp] lemma setWorker_transport (w : Nat) (k : Worker) :
    (s.setWorker w k).transport = s.transport := rfl

@[simp] lemma modifyWorker_transport (w : Nat) (f : Worker → Worker) :
    (s.modifyWorker w f).transport = s.transport := rfl

@[simp] lemma length_setWorker (w : Nat) (k : Worker) :
    (s.setWorker w k).workers.length = s.workers.length := by
  simp [setWorker]

@[simp] lemma length_modifyWorker (w : Nat) (f : Worker → Worker) :
    (s.modifyWorker w f).workers.length = s.workers.length := by
  simp [modifyWorker]

/-! ## Steps -/

/-- What can happen to a system.  An action that a worker takes on the shared state has one case in
which the worker is the current one, and ends the worker otherwise. -/
inductive Step (kind : TransportKind) (s : System) : Action → System → Prop
  | queue (message : Octets) {w : Nat} (hw : s.transport.worker = some w) :
      Step kind s (.send message)
        ({ s with transport := { s.transport with queue := s.transport.queue ++ [message] } }
          |>.modifyWorker w (·.accept message))
  | start (message : Octets) (hw : s.transport.worker = none) :
      Step kind s (.send message)
        { s with
          transport := { s.transport.start kind with queue := s.transport.queue ++ [message] }
          workers := s.workers ++ [{ accepted := [message] }] }
  | close {w : Nat} (hw : s.transport.worker = some w) :
      Step kind s .close ((s.update s.transport.close).modifyWorker w Worker.tellToStop)
  | closeAgain (hw : s.transport.worker = none) :
      Step kind s .close (s.update s.transport.close)
  | await (isBounded : Bool) :
      Step kind s (.await isBounded) { s with waits := s.waits ++ [{ isBounded }] }
  | check {i : Nat} {d : Wait} (hd : s.waits[i]? = some d)
      (hp : d.phase = .entering ∨ d.phase = .woken) :
      Step kind s (.check i)
        (s.setWait i (if s.transport.isBusy then .parked else .returned true))
  | giveUp {i : Nat} {d : Wait} (hd : s.waits[i]? = some d) (hb : d.isBounded = true)
      (hp : d.phase = .parked) :
      Step kind s (.giveUp i) (s.setWait i (.returned !s.transport.isBusy))
  | notice (hn : s.notices ≠ 0) : Step kind s .notice s.notice
  | park {w : Nat} {k k' : Worker} (hk : s.workers[w]? = some k) (hp : k.park? = some k') :
      Step kind s (.park w) (s.setWorker w k')
  | wake {w : Nat} {k k' : Worker} (hk : s.workers[w]? = some k) (hp : k.resume? = some k') :
      Step kind s (.wake w) (s.setWorker w k')
  | stop {w : Nat} {k k' : Worker} (hk : s.workers[w]? = some k) (hp : k.stop? = some k') :
      Step kind s (.stop w) (s.setWorker w k')
  | opened {w : Nat} {k : Worker} (hk : s.workers[w]? = some k) (ht : k.task = .opening)
      (hw : s.transport.worker = some w) :
      Step kind s (.opened w)
        ((s.update (s.transport.connect kind)).setWorker w (k.turnTo .ready))
  | openFailed {w : Nat} {k : Worker} (hk : s.workers[w]? = some k) (ht : k.task = .opening)
      (hw : s.transport.worker = some w) :
      Step kind s (.openFailed w)
        ((s.update (s.transport.discard .disconnected)).setWorker w (k.turnTo .ended))
  | fetch {w : Nat} {k : Worker} {message : Octets} {rest : List Octets}
      (hk : s.workers[w]? = some k) (ht : k.task = .ready) (hw : s.transport.worker = some w)
      (hq : s.transport.queue = message :: rest) :
      Step kind s (.fetch w)
        ({ s with transport := s.transport.beginWrite }.setWorker w
          { k with task := .writing message, fetched := k.fetched ++ [message] })
  | fetchNothing {w : Nat} {k : Worker} (hk : s.workers[w]? = some k) (ht : k.task = .ready)
      (hw : s.transport.worker = some w) (hq : s.transport.queue = []) :
      Step kind s (.fetch w) (s.setWorker w { k with task := .idle })
  | write {w : Nat} {k : Worker} {message : Octets} (hk : s.workers[w]? = some k)
      (ht : k.task = .writing message) :
      Step kind s (.write w)
        (s.setWorker w { k.turnTo (.wrote message) with written := k.written ++ [message] })
  | writeFailed {w : Nat} {k : Worker} {message : Octets} (hk : s.workers[w]? = some k)
      (ht : k.task = .writing message) (hw : s.transport.worker = some w) :
      Step kind s (.writeFailed w)
        ((s.update (s.transport.discard .closed)).setWorker w (k.turnTo .ended))
  | complete {w : Nat} {k : Worker} {message : Octets} (hk : s.workers[w]? = some k)
      (ht : k.task = .wrote message) (hw : s.transport.worker = some w) :
      Step kind s (.complete w)
        ({ s with
            transport := s.transport.endWrite
            notices := s.notices + if s.transport.endWrite.queue.isEmpty then 1 else 0 }
          |>.setWorker w
            { k with task := .ready, popped := k.popped ++ s.transport.queue.take 1 })
  | leaveWaiting {a : Action} {w : Nat} {k : Worker} (hk : s.workers[w]? = some k)
      (ha : (a = .opened w ∨ a = .openFailed w) ∧ k.task = .opening ∨
        a = .writeFailed w ∧ ∃ message, k.task = .writing message)
      (hw : s.transport.worker ≠ some w) :
      Step kind s a (s.setWorker w (k.turnTo .ended))
  | leave {a : Action} {w : Nat} {k : Worker} (hk : s.workers[w]? = some k)
      (ha : a = .fetch w ∧ k.task = .ready ∨ a = .complete w ∧ ∃ message, k.task = .wrote message)
      (hw : s.transport.worker ≠ some w) :
      Step kind s a (s.setWorker w { k with task := .ended })

lemma transport_send (s : System) (kind : TransportKind) (message : Octets) :
    (s.send kind message).transport = s.transport.send kind message := by
  unfold send
  cases s.transport.worker <;> rfl

/-- A queued message, as a step. -/
lemma step_send (kind : TransportKind) (s : System) (message : Octets) :
    Step kind s (.send message) (s.send kind message) := by
  cases hw : s.transport.worker with
  | some w =>
    have heq : s.send kind message =
        ({ s with transport := { s.transport with queue := s.transport.queue ++ [message] } }
          |>.modifyWorker w (·.accept message)) := by
      simp [send, Transport.send, hw, Transport.isRunning, Worker.accept]
    rw [heq]
    exact Step.queue message hw
  | none =>
    have heq : s.send kind message =
        { s with
          transport := { s.transport.start kind with queue := s.transport.queue ++ [message] }
          workers := s.workers ++ [{ accepted := [message] }] } := by
      simp [send, Transport.send, hw, Transport.isRunning]
    rw [heq]
    exact Step.start message hw

/-- Closing, as a step. -/
lemma step_close (kind : TransportKind) (s : System) : Step kind s .close s.close := by
  cases hw : s.transport.worker with
  | some w =>
    have heq : s.close = (s.update s.transport.close).modifyWorker w Worker.tellToStop := by
      simp only [close, hw]
      rfl
    rw [heq]
    exact Step.close hw
  | none =>
    have heq : s.close = s.update s.transport.close := by simp only [close, hw]
    rw [heq]
    exact Step.closeAgain hw

/-- What a worker reports while it is the current one. -/
lemma report_of_current {w : Nat} (k : Worker) (next : Task) (change : Transport → Transport)
    (hw : s.transport.worker = some w) :
    s.report w k next change = (s.update (change s.transport)).setWorker w (k.turnTo next) := by
  rw [report, if_pos ((s.transport.isCurrent_iff w).2 hw)]

/-- What a worker reports when it is the current one no longer. -/
lemma report_of_not_current {w : Nat} (k : Worker) (next : Task) (change : Transport → Transport)
    (hw : s.transport.worker ≠ some w) :
    s.report w k next change = s.setWorker w (k.turnTo .ended) := by
  rw [report, if_neg (mt (s.transport.isCurrent_iff w).1 hw)]

/-- A look at the queue, as a step. -/
lemma step_fetch (kind : TransportKind) {w : Nat} {k : Worker} (hk : s.workers[w]? = some k)
    (ht : k.task = .ready) : Step kind s (.fetch w) (s.fetch w k) := by
  by_cases hw : s.transport.worker = some w
  · have hc := (s.transport.isCurrent_iff w).2 hw
    cases hq : s.transport.queue with
    | nil =>
      simp only [fetch, hc, if_true, hq]
      exact Step.fetchNothing hk ht hw hq
    | cons message rest =>
      simp only [fetch, hc, if_true, hq]
      exact Step.fetch hk ht hw hq
  · rw [fetch, if_neg (mt (s.transport.isCurrent_iff w).1 hw)]
    exact Step.leave hk (Or.inl ⟨rfl, ht⟩) hw

/-- Taking the written message off the queue, as a step. -/
lemma step_complete (kind : TransportKind) {w : Nat} {k : Worker} {message : Octets}
    (hk : s.workers[w]? = some k) (ht : k.task = .wrote message) :
    Step kind s (.complete w) (s.complete w k) := by
  by_cases hw : s.transport.worker = some w
  · have hstep : Step kind s _ _ := Step.complete hk ht hw
    rw [complete, if_pos ((s.transport.isCurrent_iff w).2 hw)]
    cases hq : s.transport.endWrite.queue.isEmpty <;> simpa [hq, update] using hstep
  · rw [complete, if_neg (mt (s.transport.isCurrent_iff w).1 hw)]
    exact Step.leave hk (Or.inr ⟨rfl, message, ht⟩) hw

/-- A worker that waited for its connection, or for a write, reports on it. -/
lemma step_report (kind : TransportKind) {a : Action} {w : Nat} {k : Worker} {next : Task}
    {change : Transport → Transport} (hk : s.workers[w]? = some k)
    (ha : (a = .opened w ∨ a = .openFailed w) ∧ k.task = .opening ∨
      a = .writeFailed w ∧ ∃ message, k.task = .writing message)
    (hstep : s.transport.worker = some w →
      Step kind s a ((s.update (change s.transport)).setWorker w (k.turnTo next))) :
    Step kind s a (s.report w k next change) := by
  by_cases hw : s.transport.worker = some w
  · rw [report_of_current k next change hw]
    exact hstep hw
  · rw [report_of_not_current k next change hw]
    exact Step.leaveWaiting hk ha hw

/-- Whatever `perform?` gives is a step. -/
lemma step_of_perform? {kind : TransportKind} {a : Action} {s' : System}
    (h : s.perform? kind a = some s') : Step kind s a s' := by
  cases a with
  | send message =>
    obtain rfl := Option.some.inj h
    exact step_send kind s message
  | close =>
    obtain rfl := Option.some.inj h
    exact step_close kind s
  | await isBounded =>
    obtain rfl := Option.some.inj h
    exact Step.await isBounded
  | check i =>
    obtain ⟨d, hd, h⟩ := Option.bind_eq_some_iff.1 h
    obtain ⟨hp, rfl⟩ := Option.ite_some_none_eq_some.1 h
    exact Step.check hd hp
  | giveUp i =>
    obtain ⟨d, hd, h⟩ := Option.bind_eq_some_iff.1 h
    obtain ⟨⟨hb, hp⟩, rfl⟩ := Option.ite_some_none_eq_some.1 h
    exact Step.giveUp hd hb hp
  | notice =>
    obtain ⟨hn, h⟩ := Option.ite_none_left_eq_some.1 h
    obtain rfl := Option.some.inj h
    exact Step.notice hn
  | park w =>
    obtain ⟨k, hk, h⟩ := Option.bind_eq_some_iff.1 h
    obtain ⟨k', hp, h⟩ := Option.bind_eq_some_iff.1 h
    obtain rfl := Option.some.inj h
    exact Step.park hk hp
  | wake w =>
    obtain ⟨k, hk, h⟩ := Option.bind_eq_some_iff.1 h
    obtain ⟨k', hp, h⟩ := Option.bind_eq_some_iff.1 h
    obtain rfl := Option.some.inj h
    exact Step.wake hk hp
  | stop w =>
    obtain ⟨k, hk, h⟩ := Option.bind_eq_some_iff.1 h
    obtain ⟨k', hp, h⟩ := Option.bind_eq_some_iff.1 h
    obtain rfl := Option.some.inj h
    exact Step.stop hk hp
  | opened w =>
    obtain ⟨k, hk, h⟩ := Option.bind_eq_some_iff.1 h
    obtain ⟨ht, rfl⟩ := Option.ite_some_none_eq_some.1 h
    exact step_report kind hk (Or.inl ⟨Or.inl rfl, ht⟩) (Step.opened hk ht)
  | openFailed w =>
    obtain ⟨k, hk, h⟩ := Option.bind_eq_some_iff.1 h
    obtain ⟨ht, rfl⟩ := Option.ite_some_none_eq_some.1 h
    exact step_report kind hk (Or.inl ⟨Or.inr rfl, ht⟩) (Step.openFailed hk ht)
  | fetch w =>
    obtain ⟨k, hk, h⟩ := Option.bind_eq_some_iff.1 h
    obtain ⟨ht, rfl⟩ := Option.ite_some_none_eq_some.1 h
    exact step_fetch kind hk ht
  | write w =>
    obtain ⟨k, hk, h⟩ := Option.bind_eq_some_iff.1 h
    split at h
    case h_1 message ht =>
      obtain rfl := Option.some.inj h
      exact Step.write hk ht
    case h_2 => cases h
  | writeFailed w =>
    obtain ⟨k, hk, h⟩ := Option.bind_eq_some_iff.1 h
    split at h
    case h_1 message ht =>
      obtain rfl := Option.some.inj h
      exact step_report kind hk (Or.inr ⟨rfl, message, ht⟩) (Step.writeFailed hk ht)
    case h_2 => cases h
  | complete w =>
    obtain ⟨k, hk, h⟩ := Option.bind_eq_some_iff.1 h
    split at h
    case h_1 message ht =>
      obtain rfl := Option.some.inj h
      exact step_complete kind hk ht
    case h_2 => cases h

/-- Whatever is a step, `perform?` gives. -/
lemma perform?_of_step {kind : TransportKind} {a : Action} {s' : System} (h : Step kind s a s') :
    s.perform? kind a = some s' := by
  cases h with
  | queue message hw =>
    simp [perform?, send, Transport.send, hw, Transport.isRunning, Worker.accept]
  | start message hw => simp [perform?, send, Transport.send, hw, Transport.isRunning]
  | close hw =>
    simp only [perform?, close, hw]
    rfl
  | closeAgain hw => simp [perform?, close, hw]
  | await isBounded => rfl
  | check hd hp => simp [perform?, hd, hp]
  | giveUp hd hb hp => simp [perform?, hd, hb, hp]
  | notice hn => simp [perform?, hn]
  | park hk hp => simp [perform?, hk, hp]
  | wake hk hp => simp [perform?, hk, hp]
  | stop hk hp => simp [perform?, hk, hp]
  | opened hk ht hw => simp [perform?, hk, ht, report_of_current _ _ _ hw]
  | openFailed hk ht hw => simp [perform?, hk, ht, report_of_current _ _ _ hw]
  | fetch hk ht hw hq => simp [perform?, hk, ht, fetch, Transport.isCurrent, hw, hq]
  | fetchNothing hk ht hw hq => simp [perform?, hk, ht, fetch, Transport.isCurrent, hw, hq]
  | write hk ht => simp [perform?, hk, ht]
  | writeFailed hk ht hw => simp [perform?, hk, ht, report_of_current _ _ _ hw]
  | complete hk ht hw =>
    cases hq : s.transport.endWrite.queue.isEmpty <;>
      simp [perform?, hk, ht, complete, Transport.isCurrent, hw, hq, update]
  | leaveWaiting hk ha hw =>
    obtain ⟨rfl | rfl, ht⟩ | ⟨rfl, message, ht⟩ := ha <;>
      simp [perform?, hk, ht, report_of_not_current _ _ _ hw]
  | leave hk ha hw =>
    obtain ⟨rfl, ht⟩ | ⟨rfl, message, ht⟩ := ha
    · simp [perform?, hk, ht, fetch, Transport.isCurrent, hw]
    · simp [perform?, hk, ht, complete, Transport.isCurrent, hw]

/-- The steps are exactly what `perform?` gives. -/
theorem perform?_eq_some_iff {kind : TransportKind} {a : Action} {s' : System} :
    s.perform? kind a = some s' ↔ Step kind s a s' :=
  ⟨step_of_perform?, perform?_of_step⟩

/-! ## What callers do -/

section Callers

variable {kind : TransportKind} {s' : System}

/-- Whoever sends queues the message for the current worker, or starts a worker with it. -/
lemma Step.of_send {message : Octets} (hs : Step kind s (.send message) s') :
    (∃ w, s.transport.worker = some w ∧ s' =
      ({ s with transport := { s.transport with queue := s.transport.queue ++ [message] } }
        |>.modifyWorker w (·.accept message))) ∨
    s.transport.worker = none ∧ s' =
      { s with
        transport := { s.transport.start kind with queue := s.transport.queue ++ [message] }
        workers := s.workers ++ [{ accepted := [message] }] } := by
  cases hs with
  | queue _ hw => exact Or.inl ⟨_, hw, rfl⟩
  | start _ hw => exact Or.inr ⟨hw, rfl⟩
  | leaveWaiting _ ha | leave _ ha => simp at ha

/-- Whoever closes tells the current worker to end, if there is one. -/
lemma Step.of_close (hs : Step kind s .close s') :
    (∃ w, s.transport.worker = some w ∧
      s' = (s.update s.transport.close).modifyWorker w Worker.tellToStop) ∨
    s.transport.worker = none ∧ s' = s.update s.transport.close := by
  cases hs with
  | close hw => exact Or.inl ⟨_, hw, rfl⟩
  | closeAgain hw => exact Or.inr ⟨hw, rfl⟩
  | leaveWaiting _ ha | leave _ ha => simp at ha

/-- Whoever closes leaves the transport closed, whether there is a worker or not. -/
lemma Step.transport_of_close (hs : Step kind s .close s') : s'.transport = s.transport.close := by
  obtain ⟨w, -, rfl⟩ | ⟨-, rfl⟩ := hs.of_close
  · rfl
  · rfl

/-- Whoever begins to wait changes nothing else. -/
lemma Step.of_await {isBounded : Bool} (hs : Step kind s (.await isBounded) s') :
    s' = { s with waits := s.waits ++ [{ isBounded }] } :=
  (Option.some.inj (perform?_of_step hs)).symm

/-- Whoever looks whether the transport is idle parks or returns. -/
lemma Step.of_check {i : Nat} (hs : Step kind s (.check i) s') :
    ∃ d, s.waits[i]? = some d ∧ (d.phase = .entering ∨ d.phase = .woken) ∧
      s' = s.setWait i (if s.transport.isBusy then .parked else .returned true) := by
  cases hs with
  | check hd hp => exact ⟨_, hd, hp, rfl⟩
  | leaveWaiting _ ha | leave _ ha => simp at ha

/-- Whoever gives up waiting was parked, and returns. -/
lemma Step.of_giveUp {i : Nat} (hs : Step kind s (.giveUp i) s') :
    ∃ d, s.waits[i]? = some d ∧ d.isBounded = true ∧ d.phase = .parked ∧
      s' = s.setWait i (.returned !s.transport.isBusy) := by
  cases hs with
  | giveUp hd hb hp => exact ⟨_, hd, hb, hp, rfl⟩
  | leaveWaiting _ ha | leave _ ha => simp at ha

end Callers

/-! ## Runs -/

lemma Path.append {kind : TransportKind} {s₁ s₂ : System} {as bs : List Action}
    (h : Path kind s as s₁) (h' : Path kind s₁ bs s₂) : Path kind s (as ++ bs) s₂ := by
  induction h with
  | nil => exact h'
  | cons ha _ ih => exact Path.cons ha (ih h')

lemma Path.append_cons {kind : TransportKind} {s₁ s₂ s₃ : System} {a : Action}
    {as bs : List Action} (h : Path kind s as s₁) (hs : Step kind s₁ a s₂)
    (h' : Path kind s₂ bs s₃) : Path kind s (as ++ a :: bs) s₃ :=
  h.append (Path.cons (perform?_of_step hs) h')

/-- A run comes to some system after its first actions. -/
lemma path_append_iff {kind : TransportKind} {as bs : List Action} {s' : System} :
    Path kind s (as ++ bs) s' ↔ ∃ s₁, Path kind s as s₁ ∧ Path kind s₁ bs s' := by
  constructor
  · intro h
    induction as generalizing s with
    | nil => exact ⟨s, Path.nil s, h⟩
    | cons a as ih =>
      cases h with
      | cons ha has =>
        obtain ⟨s₁, hs₁, hbs⟩ := ih has
        exact ⟨s₁, Path.cons ha hs₁, hbs⟩
  · rintro ⟨s₁, has, hbs⟩
    exact has.append hbs

/-- A run whose last action is `a` comes to the system before it first. -/
lemma path_concat_iff {kind : TransportKind} {as : List Action} {a : Action} {s' : System} :
    Path kind s (as ++ [a]) s' ↔ ∃ s₁, Path kind s as s₁ ∧ s₁.perform? kind a = some s' := by
  rw [path_append_iff]
  constructor
  · rintro ⟨s₁, hs₁, hlast⟩
    cases hlast with
    | cons ha hnil =>
      cases hnil
      exact ⟨s₁, hs₁, ha⟩
  · rintro ⟨s₁, hs₁, ha⟩
    exact ⟨s₁, hs₁, Path.cons ha (Path.nil s')⟩

/-- What holds of a transport of which nothing was asked, and is kept by steps, holds after every
run.  What is said may depend on the actions of the run. -/
lemma Path.induction {kind : TransportKind} {motive : List Action → System → Prop}
    (nil : motive [] {})
    (step : ∀ as a s s', Path kind {} as s → Step kind s a s' → motive as s → motive (as ++ [a]) s')
    {as : List Action} {s : System} (h : Path kind {} as s) : motive as s := by
  induction as using List.reverseRecOn generalizing s with
  | nil =>
    cases h
    exact nil
  | append_singleton as a ih =>
    obtain ⟨s₁, hs₁, ha⟩ := path_concat_iff.1 h
    exact step as a s₁ s hs₁ (step_of_perform? ha) (ih hs₁)

/-- A run is found by performing its actions. -/
lemma path_of_foldlM {kind : TransportKind} {as : List Action} {s' : System}
    (h : as.foldlM (fun s a => s.perform? kind a) s = some s') : Path kind s as s' := by
  induction as generalizing s with
  | nil =>
    obtain rfl := Option.some.inj h
    exact Path.nil s
  | cons a as ih =>
    rw [List.foldlM_cons] at h
    obtain ⟨s₁, ha, has⟩ := Option.bind_eq_some_iff.1 h
    exact Path.cons ha (ih has)

end System

end OscRemote
