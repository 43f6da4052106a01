import OscRemote.Peer
import OscRemote.Proofs.Client.Caller

/-!
# A transport that goes on by itself

A `Link` lets its worker go on as far as the peer's answers let it, with a number of actions set
beforehand.  Here it is seen that every action that is chosen is possible, so that the transport of a
link stays one that runs lead to (`Link.IsSound.settleWithin`), and that the number is enough: after
`Link.settle` the worker has nothing left to do (`Link.IsSound.nextAction?_settle`).

What is left to do is counted by `Worker.remaining`: three actions for each message in the queue, the
opening before them, a look at the empty queue after them, and two actions for a notification that
is still to be received.
-/

namespace OscRemote

/-! ## What is left to do -/

namespace Worker

/-- The number of actions that a notification of more messages still causes. -/
def notified (k : Worker) : Nat := if k.wake.isReady then 2 else 0

/-- The number of actions that a worker has before it with this many messages in the queue, if it
does not fail and nobody sends. -/
def remaining (k : Worker) (pending : Nat) : Nat :=
  match k.task with
  | .opening => 3 * pending + 2 + k.notified
  | .ready => 3 * pending + 1 + k.notified
  | .idle => if k.wake.isReady then 3 * pending + 2 else 0
  | .writing _ => 3 * pending + k.notified
  | .wrote _ => 3 * pending - 1 + k.notified
  | .ended => 0

lemma notified_le (k : Worker) : k.notified ≤ 2 := by
  unfold notified
  split <;> omega

lemma remaining_le (k : Worker) (pending : Nat) : k.remaining pending ≤ 3 * pending + 4 := by
  have hnotified := k.notified_le
  unfold remaining
  split <;> first | omega | (split <;> omega)

end Worker

namespace System

variable {kind : TransportKind} {s s' : System} {a : Action} {w : Nat} {k : Worker}

/-- The number of actions that the current worker has before it. -/
def remaining (s : System) : Nat :=
  ((s.transport.worker.bind fun w => s.workers[w]?).map
    (·.remaining s.transport.queue.length)).getD 0

lemma remaining_of_worker (hw : s.transport.worker = some w) (hk : s.workers[w]? = some k) :
    s.remaining = k.remaining s.transport.queue.length := by
  rw [remaining, hw, Option.bind_some, hk]
  rfl

/-- The current worker has come to be another one, with some change of the shared state. -/
lemma remaining_setWorker (t' : Transport) (n : Nat) (k' : Worker) (hk : s.workers[w]? = some k)
    (hw : t'.worker = some w) :
    (System.setWorker { s with transport := t', notices := n } w k').remaining =
      k'.remaining t'.queue.length := by
  have hlt : w < s.workers.length := (List.getElem?_eq_some_iff.1 hk).1
  exact remaining_of_worker hw (List.getElem?_set_self hlt)

lemma remaining_of_none (hw : s.transport.worker = none) : s.remaining = 0 := by
  rw [remaining, hw]
  rfl

lemma remaining_le (s : System) : s.remaining ≤ 3 * s.transport.pending + 4 := by
  unfold remaining
  cases hk : s.transport.worker.bind fun w => s.workers[w]? with
  | none => exact Nat.zero_le _
  | some k => exact k.remaining_le _

end System

/-- The worker whose connection an action opens. -/
def Action.opened? : Action → Option Nat
  | .opened w => some w
  | _ => none

namespace System

variable {kind : TransportKind} {s s' : System} {a : Action}

/-- Nobody is parked at the signal for more messages by anything but parking. -/
lemma Step.unparked (hs : Step kind s a s') (ho : s.Ordered) (hpark : ∀ w, a ≠ .park w)
    (h : ∀ (w : Nat) (k : Worker), s.workers[w]? = some k → k.wake.waiter = .absent) :
    ∀ (w : Nat) (k : Worker), s'.workers[w]? = some k → k.wake.waiter = .absent := by
  refine hs.forall_workers ho (P := fun _ _ k => k.wake.waiter = .absent) (fun _ _ hk => hk)
    (fun _ _ _ => rfl) (fun {w k k'} _ hstep hk => ?_) h
  generalize s'.transport = t' at hstep
  cases hstep with
  | accept => simp [Worker.accept, Signal.notify, hk]
  | park => exact absurd rfl (hpark w)
  | wake hp =>
    obtain ⟨wake, -, hwake, rfl⟩ := Worker.resume?_eq_some hp
    exact (Signal.receive?_eq_some hwake).2
  | stop hp =>
    obtain ⟨stop, -, -, rfl⟩ := Worker.stop?_eq_some hp
    rfl
  | tellToStop | opened | fail | fetch | fetchNothing | write | complete | leaveWaiting | leave =>
    exact hk

end System

namespace Link

variable {l : Link} {a : Action}

/-- What the current worker is at when it takes an action next. -/
lemma of_nextAction? (h : l.nextAction? = some a) :
    ∃ w k, l.system.transport.worker = some w ∧ l.system.workers[w]? = some k ∧
      ((a = .fetch w ∧ k.task = .ready) ∨ (a = .wake w ∧ k.task = .idle ∧ k.wake.isReady = true) ∨
        ((a = .opened w ∨ a = .openFailed w) ∧ k.task = .opening) ∨
        ((a = .write w ∨ a = .writeFailed w) ∧ ∃ message, k.task = .writing message) ∨
        (a = .complete w ∧ ∃ message, k.task = .wrote message)) := by
  obtain ⟨w, hw, h⟩ := Option.bind_eq_some_iff.1 h
  cases hk : l.system.workers[w]? with
  | none =>
    simp only [System.need, hk] at h
    cases h
  | some k =>
    refine ⟨w, k, hw, hk, ?_⟩
    cases ht : k.task with
    | ready =>
      simp only [System.need, hk, ht, Option.some.injEq] at h
      exact Or.inl ⟨h.symm, rfl⟩
    | idle =>
      cases hready : k.wake.isReady with
      | true =>
        simp only [System.need, hk, ht, hready, if_true, Option.some.injEq] at h
        exact Or.inr (Or.inl ⟨h.symm, rfl, rfl⟩)
      | false =>
        simp only [System.need, hk, ht, hready] at h
        cases h
    | opening =>
      simp only [System.need, hk, ht] at h
      refine Or.inr (Or.inr (Or.inl ⟨?_, rfl⟩))
      cases hanswer : l.openAnswer <;> simp_all
    | writing message =>
      simp only [System.need, hk, ht] at h
      refine Or.inr (Or.inr (Or.inr (Or.inl ⟨?_, message, rfl⟩)))
      cases hanswer : l.writeAnswer w message <;> simp_all
    | wrote message =>
      simp only [System.need, hk, ht, Option.some.injEq] at h
      exact Or.inr (Or.inr (Or.inr (Or.inr ⟨h.symm, message, rfl⟩)))
    | ended =>
      simp only [System.need, hk, ht] at h
      cases h

/-- The transport of a link is one that runs lead to, and none of its workers is parked at the
signal for more messages. -/
structure IsSound (l : Link) : Prop where
  reachable : System.Reachable l.kind l.system
  unparked : ∀ (w : Nat) (k : Worker), l.system.workers[w]? = some k → k.wake.waiter = .absent

/-- Whoever is not parked is not ready any more when it has received its notification. -/
lemma isReady_of_receive? {s s' : Signal} (habsent : s.waiter = .absent)
    (h : s.receive? = some s') : s'.isReady = false := by
  rcases s with ⟨permit, waiter⟩
  obtain rfl : waiter = .absent := habsent
  cases permit <;> cases h
  rfl

namespace IsSound

variable {w : Nat} {k : Worker} {message : Octets}

/-- Looking at the queue. -/
lemma exists_fetch (hk : l.system.workers[w]? = some k) (hw : l.system.transport.worker = some w)
    (ht : k.task = .ready) :
    ∃ s', l.system.perform? l.kind (.fetch w) = some s' ∧ s'.remaining < l.system.remaining := by
  rw [System.remaining_of_worker hw hk]
  cases hq : l.system.transport.queue with
  | nil =>
    refine ⟨_, System.perform?_of_step (.fetchNothing hk ht hw hq), ?_⟩
    rw [System.remaining_setWorker l.system.transport _ _ hk hw, hq]
    simp only [Worker.remaining, Worker.notified, ht]
    split <;> simp
  | cons message rest =>
    refine ⟨_, System.perform?_of_step (.fetch hk ht hw hq), ?_⟩
    rw [System.remaining_setWorker l.system.transport.beginWrite _ _ hk hw, ← hq]
    simp only [Worker.remaining, ht]
    show 3 * l.system.transport.queue.length + k.notified < _
    omega

/-- Going on because of a notification. -/
lemma exists_wake (h : l.IsSound) (hk : l.system.workers[w]? = some k)
    (hw : l.system.transport.worker = some w) (ht : k.task = .idle)
    (hready : k.wake.isReady = true) :
    ∃ s', l.system.perform? l.kind (.wake w) = some s' ∧ s'.remaining < l.system.remaining := by
  obtain ⟨as, hpath⟩ := h.reachable
  obtain ⟨wake, hwake⟩ := (hpath.attends w k hk).wakeOrderly.exists_receive? hready
  have hresume : k.resume? = some { k with task := .ready, wake, stop := k.stop.leave } := by
    simp [Worker.resume?, ht, hwake]
  refine ⟨_, System.perform?_of_step (.wake hk hresume), ?_⟩
  rw [System.remaining_of_worker hw hk, System.remaining_setWorker l.system.transport _ _ hk hw]
  simp [Worker.remaining, Worker.notified, ht, hready,
    isReady_of_receive? (h.unparked w k hk) hwake]

/-- Opening, with or without success. -/
lemma exists_open {a : Action} (hk : l.system.workers[w]? = some k)
    (hw : l.system.transport.worker = some w) (ht : k.task = .opening)
    (ha : a = .opened w ∨ a = .openFailed w) :
    ∃ s', l.system.perform? l.kind a = some s' ∧ s'.remaining < l.system.remaining := by
  rw [System.remaining_of_worker hw hk]
  simp only [Worker.remaining, ht]
  obtain rfl | rfl := ha
  · refine ⟨_, System.perform?_of_step (.opened hk ht hw), ?_⟩
    rw [System.update, System.remaining_setWorker (l.system.transport.connect l.kind) _ _ hk
      (by simpa using hw)]
    simp only [Worker.remaining, Worker.turnTo, Transport.connect_queue]
    show 3 * l.system.transport.queue.length + 1 + k.notified < _
    omega
  · refine ⟨_, System.perform?_of_step (.openFailed hk ht hw), ?_⟩
    rw [System.remaining_of_none rfl]
    omega

/-- What a worker writes, or has written, is still in the queue. -/
lemma pending_pos (h : l.IsSound) (hk : l.system.workers[w]? = some k)
    (hw : l.system.transport.worker = some w) (ht : k.task.message? = some message) :
    0 < l.system.transport.queue.length := by
  obtain ⟨as, hpath⟩ := h.reachable
  have hhead := (hpath.ordered.follows w k hk).head hw message ht
  obtain ⟨rest, hrest⟩ := List.head?_eq_some_iff.1 hhead
  rw [hrest]
  exact Nat.succ_pos _

/-- Writing, with or without success. -/
lemma exists_write {a : Action} (h : l.IsSound) (hk : l.system.workers[w]? = some k)
    (hw : l.system.transport.worker = some w) (ht : k.task = .writing message)
    (ha : a = .write w ∨ a = .writeFailed w) :
    ∃ s', l.system.perform? l.kind a = some s' ∧ s'.remaining < l.system.remaining := by
  have hpending : 0 < l.system.transport.queue.length :=
    h.pending_pos hk hw (by rw [ht]; rfl)
  rw [System.remaining_of_worker hw hk]
  simp only [Worker.remaining, ht]
  obtain rfl | rfl := ha
  · refine ⟨_, System.perform?_of_step (.write hk ht), ?_⟩
    rw [System.remaining_setWorker l.system.transport _ _ hk hw]
    simp only [Worker.remaining, Worker.turnTo]
    show 3 * l.system.transport.queue.length - 1 + k.notified < _
    omega
  · refine ⟨_, System.perform?_of_step (.writeFailed hk ht hw), ?_⟩
    rw [System.remaining_of_none rfl]
    omega

/-- Taking the message that was written off the queue. -/
lemma exists_complete (h : l.IsSound) (hk : l.system.workers[w]? = some k)
    (hw : l.system.transport.worker = some w) (ht : k.task = .wrote message) :
    ∃ s', l.system.perform? l.kind (.complete w) = some s' ∧
      s'.remaining < l.system.remaining := by
  have hpending : 0 < l.system.transport.queue.length :=
    h.pending_pos hk hw (by rw [ht]; rfl)
  refine ⟨_, System.perform?_of_step (.complete hk ht hw), ?_⟩
  rw [System.remaining_of_worker hw hk,
    System.remaining_setWorker l.system.transport.endWrite _ _ hk hw]
  simp only [Worker.remaining, ht, Transport.endWrite, List.length_tail]
  show 3 * (l.system.transport.queue.length - 1) + 1 + k.notified < _
  omega

/-- The action that is taken next is possible, and leaves less to do. -/
lemma exists_perform? (h : l.IsSound) (ha : l.nextAction? = some a) :
    ∃ s', l.system.perform? l.kind a = some s' ∧ a.isWork = true ∧ a ≠ .notice ∧
      (∀ w, a ≠ .park w) ∧ s'.remaining < l.system.remaining := by
  obtain ⟨w, k, hw, hk, hcases⟩ := of_nextAction? ha
  have hpossible : ∃ s', l.system.perform? l.kind a = some s' ∧
      s'.remaining < l.system.remaining := by
    obtain ⟨rfl, ht⟩ | ⟨rfl, ht, hready⟩ | ⟨ha, ht⟩ | ⟨ha, message, ht⟩ | ⟨rfl, message, ht⟩ :=
      hcases
    · exact exists_fetch hk hw ht
    · exact h.exists_wake hk hw ht hready
    · exact exists_open hk hw ht ha
    · exact h.exists_write hk hw ht ha
    · exact h.exists_complete hk hw ht
  obtain ⟨s', hs', hless⟩ := hpossible
  obtain ⟨hwork, hnotice, hpark⟩ : a.isWork = true ∧ a ≠ .notice ∧ ∀ w, a ≠ .park w := by
    obtain ⟨rfl, -⟩ | ⟨rfl, -⟩ | ⟨rfl | rfl, -⟩ | ⟨rfl | rfl, -⟩ | ⟨rfl, -⟩ := hcases <;>
      simp [Action.isWork]
  exact ⟨s', hs', hwork, hnotice, hpark, hless⟩

end IsSound

/-! ## Going on -/

lemma act_kind (l : Link) (a : Action) : (l.act a).kind = l.kind := by
  unfold act
  dsimp only
  split
  · rfl
  · split <;> rfl
  · rfl

lemma act_of_perform? {s' : System} (h : l.system.perform? l.kind a = some s') :
    (l.act a).system = s' ∧ (l.act a).kind = l.kind ∧
      (l.act a).connections = l.connections ++ a.opened?.toList := by
  unfold act
  rw [h, Option.getD_some]
  cases a with
  | opened w => exact ⟨rfl, rfl, rfl⟩
  | write w =>
    dsimp only
    split
    · exact ⟨rfl, rfl, (List.append_nil _).symm⟩
    · exact ⟨rfl, rfl, (List.append_nil _).symm⟩
  | _ => exact ⟨rfl, rfl, (List.append_nil _).symm⟩

/-- A link stays sound by an action that is possible and parks nobody. -/
lemma IsSound.act {s' : System} (h : l.IsSound) (hs : l.system.perform? l.kind a = some s')
    (hpark : ∀ w, a ≠ .park w) : (l.act a).IsSound := by
  obtain ⟨hsystem, hkind, -⟩ := act_of_perform? hs
  have hstep := System.step_of_perform? hs
  obtain ⟨as, hpath⟩ := h.reachable
  constructor
  · rw [hsystem, hkind]
    exact h.reachable.concat hstep
  · rw [hsystem]
    exact hstep.unparked hpath.ordered hpark h.unparked

lemma isSound_start (kind : TransportKind) (settings : TransportSettings) (peer : Peer) :
    ({ kind, settings, peer } : Link).IsSound where
  reachable := ⟨[], .nil {}⟩
  unparked := nofun

/-- What the current worker keeps with every action that it takes next, it keeps as it goes on. -/
lemma settleWithin_induction {motive : Link → Prop}
    (act : ∀ l a, l.nextAction? = some a → motive l → motive (l.act a)) (fuel : Nat)
    (start : motive l) : motive (l.settleWithin fuel) := by
  induction fuel generalizing l with
  | zero => exact start
  | succ fuel ih =>
    rw [settleWithin]
    split
    case h_1 a ha => exact ih (act l a ha start)
    case h_2 => exact start

lemma IsSound.settleWithin (h : l.IsSound) (fuel : Nat) : (l.settleWithin fuel).IsSound := by
  refine settleWithin_induction (motive := IsSound) (fun l a ha hl => ?_) fuel h
  obtain ⟨s', hs', -, -, hpark, -⟩ := hl.exists_perform? ha
  exact hl.act hs' hpark

/-- With as many actions as are left to do, nothing is left to do. -/
lemma IsSound.nextAction?_settleWithin {fuel : Nat} (h : l.IsSound)
    (hfuel : l.system.remaining ≤ fuel) : (l.settleWithin fuel).nextAction? = none := by
  induction fuel generalizing l with
  | zero =>
    cases ha : l.nextAction? with
    | none => exact ha
    | some a =>
      obtain ⟨s', -, -, -, -, hless⟩ := h.exists_perform? ha
      omega
  | succ fuel ih =>
    rw [Link.settleWithin]
    split
    case h_1 a ha =>
      obtain ⟨s', hs', -, -, hpark, hless⟩ := h.exists_perform? ha
      refine ih (h.act hs' hpark) ?_
      rw [(act_of_perform? hs').1]
      omega
    case h_2 ha => exact ha

/-- A link that has settled has nothing left to do. -/
theorem IsSound.nextAction?_settle (h : l.IsSound) : l.settle.nextAction? = none :=
  h.nextAction?_settleWithin l.system.remaining_le

/-! ## Requests -/

lemma settleWithin_kind (l : Link) (fuel : Nat) : (l.settleWithin fuel).kind = l.kind := by
  refine settleWithin_induction (motive := fun l' => l'.kind = l.kind) (fun l' a _ hl' => ?_) fuel rfl
  rw [act_kind, hl']

lemma IsSound.of_system_eq {l' : Link} (h : l.IsSound) (hkind : l'.kind = l.kind)
    (hsystem : l'.system = l.system) : l'.IsSound where
  reachable := by
    rw [hkind, hsystem]
    exact h.reachable
  unparked := by
    rw [hsystem]
    exact h.unparked

/-- The link before a message is queued: if a worker is to be started, its time is set. -/
def beforeSend (l : Link) : Link :=
  if l.transport.isRunning then l
  else { l with deadline := l.now + l.settings.connectTimeout.toNat }

lemma beforeSend_eq (l : Link) : l.beforeSend.kind = l.kind ∧ l.beforeSend.system = l.system ∧
    l.beforeSend.connections = l.connections := by
  unfold beforeSend
  split <;> exact ⟨rfl, rfl, rfl⟩

lemma send_eq (l : Link) (message : Octets) :
    l.send message = (l.beforeSend.act (.send message)).settle := rfl

/-- The link of a wait when it is over, before the worker has gone on. -/
def afterWait (l : Link) (limit : Option UInt64) : Link :=
  { l with now := l.now +
      (if !l.transport.isBusy then 0
      else if l.isOpening then
        match limit with
        | some limit => min (l.deadline - l.now) limit.toNat
        | none => l.deadline - l.now
      else (limit.map UInt64.toNat).getD 0) }

lemma drain_eq (l : Link) (limit : Option UInt64) :
    l.drain limit = ((l.afterWait limit).settle, !(l.afterWait limit).settle.transport.isBusy) := rfl

/-- A worker that can do nothing waits. -/
lemma isWaiting_of_nextAction?_eq_none {w : Nat} {k : Worker} (hnone : l.nextAction? = none)
    (hw : l.system.transport.worker = some w) (hk : l.system.workers[w]? = some k)
    (hended : k.task ≠ .ended) : k.task.isWaiting = true := by
  have hneed (a : Action) : l.system.need w ≠ .action a := by
    intro hneed
    have hsome : l.nextAction? = some a := by
      simp only [nextAction?, transport, hw, Option.bind_eq_bind, Option.bind_some, hneed]
    rw [hnone] at hsome
    cases hsome
  cases ht : k.task with
  | opening | idle | writing => rfl
  | ready => exact absurd (by simp [System.need, hk, ht]) (hneed (.fetch w))
  | wrote message => exact absurd (by simp [System.need, hk, ht]) (hneed (.complete w))
  | ended => exact absurd ht hended

lemma worker_close (s : System) : s.close.transport.worker = none := by
  rw [(System.step_close .stream s).transport_of_close]
  rfl

/-- When the transport is closed on a worker that can do nothing, the worker can end. -/
lemma IsSound.exists_stop {w : Nat} (h : l.IsSound) (hnone : l.nextAction? = none)
    (hw : l.system.transport.worker = some w) :
    ∃ s' k', l.system.close.perform? l.kind (.stop w) = some s' ∧ s'.transport.worker = none ∧
      s'.workers[w]? = some k' ∧ k'.task = .ended := by
  obtain ⟨as, hpath⟩ := h.reachable
  obtain ⟨k, hk⟩ := hpath.ordered.exists_current hw
  have hwaiting := isWaiting_of_nextAction?_eq_none hnone hw hk ((hpath.attends w k hk).notEnded hw)
  obtain ⟨stop, hstop⟩ :=
    (Signal.isOrderly_notify k.stop).exists_receive? (Signal.isReady_notify k.stop)
  have hstop? : k.tellToStop.stop? =
      some { k.tellToStop with task := .ended, wake := k.wake.leave, stop } := by
    simp [Worker.stop?, Worker.tellToStop, hwaiting, hstop]
  have hclose : l.system.close.workers[w]? = some k.tellToStop := by
    simp [System.close, hw, System.modifyWorker, System.update, hk, Worker.tellToStop]
  have hlt : w < l.system.close.workers.length := (List.getElem?_eq_some_iff.1 hclose).1
  exact ⟨_, _, System.perform?_of_step (.stop hclose hstop?), worker_close l.system,
    List.getElem?_set_self hlt, rfl⟩

/-- Closing, if the worker can do nothing before. -/
lemma IsSound.close_cases (h : l.IsSound) (hnone : l.nextAction? = none) :
    (l.system.transport.worker = none ∧ l.close = l.act .close) ∨
      ∃ w s' k', l.system.transport.worker = some w ∧ l.close = (l.act .close).act (.stop w) ∧
        (l.act .close).system.perform? (l.act .close).kind (.stop w) = some s' ∧
        s'.transport.worker = none ∧ s'.workers[w]? = some k' ∧ k'.task = .ended := by
  have hsystem : (l.act .close).system = l.system.close := (act_of_perform? rfl).1
  cases hw : l.system.transport.worker with
  | none => exact Or.inl ⟨rfl, by rw [Link.close, transport, hw]⟩
  | some w =>
    obtain ⟨s', k', hs', hworker, hk', hended⟩ := h.exists_stop hnone hw
    refine Or.inr ⟨w, s', k', rfl, by rw [Link.close, transport, hw], ?_, hworker, hk', hended⟩
    rw [hsystem, act_kind]
    exact hs'

/-- Without a current worker there is nothing to do. -/
lemma nextAction?_of_none (hw : l.system.transport.worker = none) : l.nextAction? = none := by
  rw [nextAction?, transport, hw]
  rfl

/-- A request leaves a link sound, and with nothing left to do. -/
theorem IsSound.handle (h : l.IsSound) (hnone : l.nextAction? = none) (r : Request) :
    (l.handle r).kind = l.kind ∧ (l.handle r).IsSound ∧ (l.handle r).nextAction? = none := by
  cases r with
  | send kind packet =>
    rw [Link.handle]
    split
    case isTrue =>
      obtain ⟨hkind, hsystem, -⟩ := l.beforeSend_eq
      have hsound := (h.of_system_eq hkind hsystem).act (a := .send packet) rfl (by simp)
      refine ⟨?_, hsound.settleWithin _, hsound.nextAction?_settle⟩
      rw [send_eq, settle, settleWithin_kind, act_kind, hkind]
    case isFalse => exact ⟨rfl, h, hnone⟩
  | drain kind limit =>
    rw [Link.handle]
    split
    case isTrue =>
      have hsound : (l.afterWait limit).IsSound := h.of_system_eq rfl rfl
      refine ⟨?_, hsound.settleWithin _, hsound.nextAction?_settle⟩
      rw [drain_eq, settle, settleWithin_kind]
      rfl
    case isFalse => exact ⟨rfl, h, hnone⟩
  | close kind =>
    rw [Link.handle]
    split
    case isTrue =>
      have hclosed : (l.act .close).IsSound := h.act rfl (by simp)
      have hworker : (l.act .close).system.transport.worker = none := by
        rw [(act_of_perform? (a := .close) rfl).1]
        exact worker_close l.system
      obtain ⟨-, hclose⟩ | ⟨w, s', k', -, hclose, hs', hworker', -⟩ := h.close_cases hnone
      · rw [hclose]
        exact ⟨l.act_kind _, hclosed, nextAction?_of_none hworker⟩
      · rw [hclose]
        refine ⟨by rw [act_kind, act_kind], hclosed.act hs' (by simp), nextAction?_of_none ?_⟩
        rw [(act_of_perform? hs').1]
        exact hworker'
    case isFalse => exact ⟨rfl, h, hnone⟩

end Link

end OscRemote
