import OscRemote.Proofs.Client.Caller

/-!
# A thread gets done

Every event uses something up.  A request pays for all that it can cause: a message for the worker
that it starts, for every step that brings it to the peer, and for the notice that follows; a wait
for each time that the thread looks whether the transport is idle.  `View.size` adds up what is
still to be paid for, and every step makes it smaller; so a run has at most seventeen events for
each request (`Caller.Run.length_le`).

On the other hand something can always happen while the thread is not done, and without a failure:
that is what the signals and notices of `Worker.Attends` and `System.Prompts` are for.
-/

namespace OscRemote

-- Sums are those of the core library, whatever else is in scope.
attribute [local instance (2000)] Zero.ofOfNat0

/-! ## What is still to be paid for -/

/-- What a worker at a task has before it, as long as nothing is sent. -/
def Task.load : Task → Nat
  | opening => 9
  | ready => 5
  | writing _ => 4
  | idle | wrote _ => 2
  | ended => 0

namespace Signal

variable {s s' : Signal}

/-- What the notifications of a signal can still cause. -/
def load (s : Signal) : Nat :=
  (if s.permit then 5 else 0) + if s.waiter = .woken then 5 else 0

/-- Whether one can still park at a signal, as a number. -/
def room (s : Signal) : Nat := if s.waiter = .absent then 1 else 0

lemma room_le (s : Signal) : s.room ≤ 1 := by
  unfold room
  split <;> omega

lemma load_notify_le (s : Signal) : s.notify.load ≤ s.load + 5 := by
  rcases s with ⟨permit, waiter⟩
  cases permit <;> cases waiter <;> decide

lemma load_leave_le (s : Signal) : s.leave.load ≤ s.load := by
  rcases s with ⟨permit, waiter⟩
  cases permit <;> cases waiter <;> decide

lemma room_notify (s : Signal) : s.notify.room = s.room := by
  rcases s with ⟨permit, waiter⟩
  cases waiter <;> rfl

lemma load_receive? (h : s.receive? = some s') : s'.load + 5 ≤ s.load := by
  rcases s with ⟨permit, waiter⟩
  cases permit <;> cases waiter <;> cases h <;> decide

lemma of_park? (h : s.park? = some s') : s'.load = s.load ∧ s'.room + 1 = s.room := by
  obtain ⟨⟨habsent, -⟩, rfl⟩ := Option.ite_some_none_eq_some.1 h
  simp [load, room, habsent]

end Signal

/-- What a worker has before it, as long as nothing is sent. -/
def Worker.load (k : Worker) : Nat := k.task.load + k.stop.room + k.wake.load

lemma Worker.load_le (k : Worker) : k.load ≤ k.task.load + 1 + k.wake.load :=
  Nat.add_le_add_right (Nat.add_le_add_left (Signal.room_le _) _) _

lemma Worker.le_load (k : Worker) : k.task.load + k.wake.load ≤ k.load :=
  Nat.add_le_add_right (Nat.le_add_right _ _) _

namespace System

variable {kind : TransportKind} {s s' : System} {a : Action}

/-- What is to happen on a transport before it comes to rest, as long as nothing is sent. -/
def load (s : System) : Nat :=
  6 * s.transport.queue.length + (s.workers.map Worker.load).sum + 2 * s.notices

lemma sum_map_set {α : Type} (f : α → Nat) {l : List α} {i : Nat} {x y : α} (h : l[i]? = some x) :
    ((l.set i y).map f).sum + f x = (l.map f).sum + f y := by
  induction l generalizing i with
  | nil => cases h
  | cons z l ih =>
    cases i with
    | zero =>
      obtain rfl := Option.some.inj h
      simp only [List.set_cons_zero, List.map_cons, List.sum_cons]
      omega
    | succ i =>
      have := ih h
      simp only [List.set_cons_succ, List.map_cons, List.sum_cons]
      omega

/-- A worker acts, and less is left to be done by it and about the queue. -/
lemma load_setWorker_lt {w n : Nat} {k k' : Worker} {t' : Transport} (hk : s.workers[w]? = some k)
    (h : 6 * t'.queue.length + k'.load + 2 * n <
      6 * s.transport.queue.length + k.load + 2 * s.notices) :
    (System.setWorker { s with transport := t', notices := n } w k').load < s.load := by
  have hsum := sum_map_set Worker.load (y := k') hk
  simp only [load, System.setWorker]
  omega

/-- A worker uses something up with whatever it does, and so does whoever gives a notice that is
owed. -/
lemma Step.load_lt (hs : Step kind s a s') (ho : s.Ordered) (ha : a.isWork = true) :
    s'.load < s.load ∧ s'.waits = s.waits ∨ a = .notice ∧ s'.load + 2 = s.load ∧ s' = s.notice := by
  cases hs with
  | queue | start | close | closeAgain | await | check | giveUp => cases ha
  | notice hn =>
    refine Or.inr ⟨rfl, ?_, rfl⟩
    simp only [load, System.notice]
    omega
  | @park w k k' hk hp =>
    obtain ⟨wake, stop, rfl, hstop, hwake⟩ := Worker.park?_eq_some hp
    have hwake : wake.load = k.wake.load := by
      rcases hwake with ⟨-, hwake⟩ | ⟨-, -, rfl⟩
      · exact (Signal.of_park? hwake).1
      · rfl
    have hroom := (Signal.of_park? hstop).2
    refine Or.inl ⟨load_setWorker_lt hk ?_, rfl⟩
    simp only [Worker.load]
    omega
  | @wake w k k' hk hp =>
    obtain ⟨wake, ht, hwake, rfl⟩ := Worker.resume?_eq_some hp
    have hload := Signal.load_receive? hwake
    have hroom := Signal.room_le k.stop.leave
    refine Or.inl ⟨load_setWorker_lt hk ?_, rfl⟩
    simp only [Worker.load, ht, Task.load]
    omega
  | @stop w k k' hk hp =>
    obtain ⟨stop, ht, -, rfl⟩ := Worker.stop?_eq_some hp
    have hload := Signal.load_leave_le k.wake
    have hbefore := k.le_load
    have htask : 2 ≤ k.task.load := by
      cases hk : k.task <;> simp_all [Task.isWaiting, Task.load]
    have hafter : Worker.load { k with task := .ended, wake := k.wake.leave, stop } ≤
        0 + 1 + k.wake.leave.load := Worker.load_le _
    exact Or.inl ⟨load_setWorker_lt hk (by omega), rfl⟩
  | @opened w k hk ht hw =>
    have hroom := Signal.room_le k.stop.leave
    refine Or.inl ⟨load_setWorker_lt hk ?_, rfl⟩
    simp only [Worker.load, Worker.turnTo, ht, Task.load, Transport.connect_queue]
    omega
  | @openFailed w k hk ht hw =>
    have hroom := Signal.room_le k.stop.leave
    refine Or.inl ⟨load_setWorker_lt hk ?_, rfl⟩
    simp only [Worker.load, Worker.turnTo, ht, Task.load, Transport.discard, List.length_nil]
    omega
  | @fetch w k message rest hk ht hw hq =>
    refine Or.inl ⟨load_setWorker_lt hk ?_, rfl⟩
    simp only [Worker.load, ht, Task.load, Transport.beginWrite]
    omega
  | @fetchNothing w k hk ht hw hq =>
    refine Or.inl ⟨load_setWorker_lt hk ?_, rfl⟩
    simp only [Worker.load, ht, Task.load]
    omega
  | @write w k message hk ht =>
    have hroom := Signal.room_le k.stop.leave
    refine Or.inl ⟨load_setWorker_lt hk ?_, rfl⟩
    simp only [Worker.load, Worker.turnTo, ht, Task.load]
    omega
  | @writeFailed w k message hk ht hw =>
    have hroom := Signal.room_le k.stop.leave
    refine Or.inl ⟨load_setWorker_lt hk ?_, rfl⟩
    simp only [Worker.load, Worker.turnTo, ht, Task.load, Transport.discard, List.length_nil]
    omega
  | @complete w k message hk ht hw =>
    have hlength : 0 < s.transport.queue.length := by
      have hhead := (ho.follows w k hk).head hw message (by rw [ht]; rfl)
      exact List.length_pos_of_mem (List.mem_of_head? hhead)
    have hnotices : (if s.transport.endWrite.queue.isEmpty then 1 else 0) ≤ 1 := by
      split <;> omega
    refine Or.inl ⟨load_setWorker_lt hk ?_, rfl⟩
    simp only [Worker.load, ht, Task.load]
    have htail : s.transport.endWrite.queue.length = s.transport.queue.length - 1 :=
      List.length_tail
    omega
  | @leaveWaiting a w k hk ha hw =>
    have hroom := Signal.room_le k.stop.leave
    refine Or.inl ⟨load_setWorker_lt hk ?_, rfl⟩
    obtain ⟨-, ht⟩ | ⟨-, message, ht⟩ := ha <;>
      simp only [Worker.load, Worker.turnTo, ht, Task.load] <;> omega
  | @leave a w k hk ha hw =>
    refine Or.inl ⟨load_setWorker_lt hk ?_, rfl⟩
    obtain ⟨-, ht⟩ | ⟨-, message, ht⟩ := ha <;>
      simp only [Worker.load, ht, Task.load] <;> omega

/-- A message brings at most this much with it. -/
lemma Step.load_send_le {message : Octets} (hs : Step kind s (.send message) s') (ho : s.Ordered) :
    s'.load ≤ s.load + 16 := by
  obtain ⟨w, hw, rfl⟩ | ⟨-, rfl⟩ := hs.of_send
  · obtain ⟨k, hk⟩ := ho.exists_current hw
    have hsum := sum_map_set Worker.load (y := k.accept message) hk
    have hwake := Signal.load_notify_le k.wake
    have haccept : (k.accept message).load = k.task.load + k.stop.room + k.wake.notify.load := rfl
    have hbefore : k.load = k.task.load + k.stop.room + k.wake.load := rfl
    simp only [load, modifyWorker, modify_eq_set hk, List.length_append, List.length_singleton]
    omega
  · have hstart : Worker.load { accepted := [message] } = 10 := rfl
    simp only [load, List.length_append, List.length_singleton, List.map_append, List.map_cons,
      List.map_nil, List.sum_append, List.sum_singleton, hstart]
    omega

/-- Closing brings a notice with it. -/
lemma Step.load_close_le (hs : Step kind s .close s') (ho : s.Ordered) :
    s'.load ≤ s.load + 2 := by
  obtain ⟨w, hw, rfl⟩ | ⟨-, rfl⟩ := hs.of_close
  · obtain ⟨k, hk⟩ := ho.exists_current hw
    have hsum := sum_map_set Worker.load (y := k.tellToStop) hk
    have htold : k.tellToStop.load = k.load := by
      simp only [Worker.load, Worker.tellToStop, Signal.room_notify]
    simp only [load, modifyWorker, modify_eq_set hk, update, Transport.close, Transport.discard,
      List.length_nil]
    omega
  · simp only [load, update, Transport.close, Transport.discard, List.length_nil]
    omega

end System

/-- How often a wait can still be looked after, and be woken. -/
def WaitPhase.load : WaitPhase → Nat
  | entering => 3
  | woken => 2
  | parked => 1
  | returned _ => 0

/-- What a thread can still do where it stands. -/
def Standing.load (s : System) : Standing → Nat
  | free => 0
  | draining _ i => 1 + (s.waits[i]?.map fun d => d.phase.load).getD 0
  | joining _ _ => 1

/-- What a request pays for. -/
def Request.load : Request → Nat
  | send _ _ => 17
  | drain _ _ => 5
  | close _ => 4

/-- What is still to be paid for on one transport. -/
def View.size (v : View) : Nat :=
  v.outlet.system.load + (v.requests.map Request.load).sum + v.standing.load v.outlet.system

namespace View

variable {kind : TransportKind} {v v' : View} {a : Option Action}

/-- A wait that was looked after is nearer to its end. -/
lemma load_setWait_lt {s : System} {i : Nat} {d : Wait} {phase : WaitPhase}
    (hd : s.waits[i]? = some d) (h : phase.load < d.phase.load) :
    (Standing.draining kind i).load (s.setWait i phase) < (Standing.draining kind i).load s := by
  simpa [Standing.load, System.getElem?_setWait hd, hd] using h

/-- A notice wakes a thread at most once. -/
lemma load_notice_le (s : System) (standing : Standing) :
    standing.load s.notice ≤ standing.load s + 1 := by
  cases standing with
  | free | joining => exact Nat.le_succ _
  | draining kind i =>
    simp only [Standing.load, System.notice, List.getElem?_map]
    cases s.waits[i]? with
    | none => exact Nat.le_succ _
    | some d => cases hp : d.phase <;> simp [hp, WaitPhase.load]

/-- A request pays for what the thread begins with it. -/
lemma load_begin_lt {r : Request} {s s' : System} (hs : System.Step kind s r.action s')
    (ho : s.Ordered) : s'.load + (r.standing s).load s' < s.load + r.load := by
  cases r with
  | send _ message =>
    have hload := hs.load_send_le ho
    simp only [Request.standing, Standing.load, Request.load]
    omega
  | drain _ limit =>
    obtain rfl := System.Step.of_await hs
    simp [Request.standing, Standing.load, Request.load, WaitPhase.load, System.load]
  | close kind' =>
    have hload := hs.load_close_le ho
    have hstanding : ((Request.close kind').standing s).load s' ≤ 1 := by
      cases hw : s.transport.worker <;> simp [Request.standing, hw, Standing.load]
    simp only [Request.load]
    omega

/-- A thread that looks after its wait, or gives it up, brings it nearer to its end. -/
lemma load_wait_lt {s s' : System} {i : Nat} {a : Action} (hs : System.Step kind s a s')
    (ha : a = .check i ∨ a = .giveUp i) :
    s'.load = s.load ∧
      (Standing.draining kind i).load s' < (Standing.draining kind i).load s := by
  obtain rfl | rfl := ha
  · obtain ⟨d, hd, hp, rfl⟩ := hs.of_check
    refine ⟨rfl, load_setWait_lt hd ?_⟩
    obtain hp | hp := hp <;> rw [hp] <;> split <;> decide
  · obtain ⟨d, hd, -, hp, rfl⟩ := hs.of_giveUp
    refine ⟨rfl, load_setWait_lt hd ?_⟩
    rw [hp]
    exact Nat.zero_lt_one

/-- Every step uses something up. -/
lemma Step.size_lt (hs : Step kind v a v') (ho : v.outlet.system.Ordered) : v'.size < v.size := by
  cases hs with
  | @begin r requests s' hfree hr hkind hs =>
    have hsum : (v.requests.map Request.load).sum = r.load + (requests.map Request.load).sum := by
      rw [hr, List.map_cons, List.sum_cons]
    have hload := load_begin_lt hs ho
    simp only [size, Outlet.after, hsum]
    omega
  | @act a s' ha hs =>
    simp only [size, Outlet.after]
    obtain ha | ⟨i, hstanding, ha⟩ := ha
    · rcases hs.load_lt ho ha with ⟨hload, hwaits⟩ | ⟨-, hload, rfl⟩
      · have hstanding : v.standing.load s' = v.standing.load v.outlet.system := by
          cases v.standing <;> simp [Standing.load, hwaits]
        omega
      · have hstanding := load_notice_le v.outlet.system v.standing
        omega
    · have hload := load_wait_lt hs ha
      rw [hstanding]
      omega
  | resume h =>
    obtain ⟨i, d, b, hstanding, hd, hb⟩ | ⟨w, k, hstanding, -⟩ := h
    · simp only [size, hstanding, Standing.load]
      omega
    · simp only [size, hstanding, Standing.load]
      omega

end View

/-! ## Something can always happen -/

namespace System

variable {kind : TransportKind} {s : System} {w : Nat} {k : Worker}

/-- A worker can take an action that succeeds. -/
def CanWork (kind : TransportKind) (s : System) : Prop :=
  ∃ a s', a.isWork = true ∧ s.Succeeds a ∧ s.perform? kind a = some s'

lemma Step.canWork {a : Action} {s' : System} (hs : Step kind s a s') (ha : a.isWork = true)
    (hsucceeds : s.Succeeds a) : s.CanWork kind :=
  ⟨a, s', ha, hsucceeds, perform?_of_step hs⟩

/-- A worker that looks at the queue, or has written a message, can go on. -/
lemma canWork_of_task (hk : s.workers[w]? = some k)
    (ht : k.task = .ready ∨ ∃ message, k.task = .wrote message) : s.CanWork kind := by
  obtain ht | ⟨message, ht⟩ := ht
  · exact (step_fetch kind hk ht).canWork rfl trivial
  · exact (step_complete kind hk ht).canWork rfl trivial

/-- While a transport is busy, its worker can go on. -/
lemma Reachable.canWork_of_isBusy (h : Reachable kind s) (hbusy : s.transport.isBusy = true) :
    s.CanWork kind := by
  obtain ⟨hwaiting, -, -⟩ := h.nobody_waits_in_vain
  obtain ⟨as, hpath⟩ := h
  have hconsistent := hpath.isConsistent.transport
  have hq : s.transport.queue ≠ [] := hconsistent.isBusy_iff.1 hbusy
  cases hw : s.transport.worker with
  | none => exact absurd (hconsistent.stopped hw).1 hq
  | some w =>
    obtain ⟨k, hk⟩ := hpath.ordered.exists_current hw
    cases ht : k.task with
    | opening => exact (Step.opened hk ht hw).canWork rfl trivial
    | ready => exact canWork_of_task hk (Or.inl ht)
    | idle =>
      obtain ⟨-, s', hs'⟩ := hwaiting w k hk hw ht hq
      exact ⟨.wake w, s', rfl, trivial, hs'⟩
    | writing message => exact (Step.write hk ht).canWork rfl trivial
    | wrote message => exact canWork_of_task hk (Or.inr ⟨message, ht⟩)
    | ended => exact absurd ht ((hpath.attends w k hk).notEnded hw)

/-- As long as a worker that is the current one no longer has not ended, it can go on. -/
lemma Reachable.canWork_of_not_current (h : Reachable kind s) (hk : s.workers[w]? = some k)
    (hw : s.transport.worker ≠ some w) (ht : k.task ≠ .ended) : s.CanWork kind := by
  obtain ⟨-, hstopped, -⟩ := h.nobody_waits_in_vain
  cases ht' : k.task with
  | opening | idle | writing =>
    obtain ⟨-, s', hs'⟩ := hstopped w k hk hw (by rw [ht']; rfl)
    exact ⟨.stop w, s', rfl, trivial, hs'⟩
  | ready => exact canWork_of_task hk (Or.inl ht')
  | wrote message => exact canWork_of_task hk (Or.inr ⟨message, ht'⟩)
  | ended => exact absurd ht' ht

/-- While a caller is parked, a worker can go on, or a notice can be given. -/
lemma Reachable.canWork_of_parked {d : Wait} (h : Reachable kind s) (hd : d ∈ s.waits)
    (hp : d.phase = .parked) : s.CanWork kind := by
  cases hbusy : s.transport.isBusy with
  | true => exact h.canWork_of_isBusy hbusy
  | false =>
    obtain ⟨-, -, hnotice⟩ := h.nobody_waits_in_vain
    exact ⟨.notice, s.notice, rfl, trivial, (hnotice d hd hp hbusy).2⟩

end System

namespace Caller

variable {c : Caller} {kind : TransportKind}

/-- Something can happen without a failure. -/
def CanGoOn (c : Caller) : Prop := ∃ e c', c.Succeeds e ∧ c.perform? e = some c'

lemma canGoOn_of_canWork (h : (c.outlet kind).system.CanWork kind) : c.CanGoOn := by
  obtain ⟨a, s', ha, hsucceeds, hs'⟩ := h
  exact ⟨.work kind a, _, hsucceeds, by simp [perform?, ha, act?, Outlet.act?, hs']; rfl⟩

/-- A request can always be begun. -/
lemma exists_begin? (c : Caller) (r : Request) : ∃ c', c.begin? r = some c' := by
  have hbegin : ∃ s', System.Step r.kind (c.outlet r.kind).system r.action s' := by
    cases r with
    | send kind message => exact ⟨_, System.step_send kind _ message⟩
    | drain kind limit => exact ⟨_, System.Step.await limit.isSome⟩
    | close kind => exact ⟨_, System.step_close kind _⟩
  obtain ⟨s', hs'⟩ := hbegin
  exact ⟨_, Option.map_eq_some_iff.2 ⟨_, act?_eq_some_iff.2 ⟨s', hs', rfl⟩, rfl⟩⟩

/-- While the thread is not done, something can happen without a failure. -/
theorem canGoOn (h : ∀ kind, (c.view kind).IsFounded kind) (hdone : ¬ c.IsDone) : c.CanGoOn := by
  cases hstanding : c.standing with
  | free =>
    cases hr : c.requests with
    | nil => exact absurd ⟨hr, hstanding⟩ hdone
    | cons r requests =>
      obtain ⟨c', hc'⟩ := exists_begin? { c with requests } r
      exact ⟨.proceed, c', trivial, by simpa [perform?, proceed?, hstanding, hr] using hc'⟩
  | draining kind i =>
    have hview : (c.view kind).standing = .draining kind i := by simp [view, hstanding]
    obtain ⟨d, hd⟩ := (h kind).draining i hview
    have hphase : (c.outlet kind).system.waits[i]?.map Wait.phase = some d.phase :=
      congrArg (Option.map Wait.phase) hd
    have hcheck : (d.phase = .entering ∨ d.phase = .woken) → c.CanGoOn := by
      intro hp
      obtain ⟨c', hc'⟩ : ∃ c', c.act? kind (.check i) = some c' :=
        ⟨_, act?_eq_some_iff.2 ⟨_, System.Step.check hd hp, rfl⟩⟩
      refine ⟨.proceed, c', trivial, ?_⟩
      obtain hp | hp := hp <;> simpa [perform?, proceed?, hstanding, hphase, hp] using hc'
    cases hp : d.phase with
    | entering => exact hcheck (Or.inl hp)
    | woken => exact hcheck (Or.inr hp)
    | parked =>
      exact canGoOn_of_canWork ((h kind).reachable.canWork_of_parked (List.mem_of_getElem? hd) hp)
    | returned b =>
      refine ⟨.proceed, { c with standing := .free }, trivial, ?_⟩
      simp [perform?, proceed?, hstanding, hphase, hp]
  | joining kind w =>
    have hview : (c.view kind).standing = .joining kind w := by simp [view, hstanding]
    obtain ⟨hw, k, hk⟩ := (h kind).joining w hview
    by_cases ht : k.task = .ended
    · have htask : (c.outlet kind).system.workers[w]?.map Worker.task = some k.task :=
        congrArg (Option.map Worker.task) hk
      refine ⟨.proceed, { c with standing := .free }, trivial, ?_⟩
      simp only [perform?, proceed?, hstanding, htask, ht, if_true]
    · exact canGoOn_of_canWork ((h kind).reachable.canWork_of_not_current hk hw ht)

/-! ## Runs end -/

variable {c' : Caller} {e : Event} {es : List Event} {allowed : Caller → Event → Prop}

/-- What is still to be paid for on both transports. -/
def size (c : Caller) : Nat := (c.view .stream).size + (c.view .datagram).size

/-- Every event uses something up. -/
lemma size_lt (h : c.perform? e = some c') (hf : ∀ kind, (c.view kind).IsFounded kind) :
    c'.size < c.size := by
  obtain ⟨acting, a, hstep, hother, -⟩ := exists_step h
  obtain ⟨as, hpath⟩ := (hf acting).reachable
  have hlt := hstep.size_lt hpath.ordered
  cases acting with
  | stream =>
    have hsame := congrArg View.size (hother .datagram nofun)
    simp only [size]
    omega
  | datagram =>
    have hsame := congrArg View.size (hother .stream nofun)
    simp only [size]
    omega

lemma Run.length_add_size_le (h : Run allowed c es c')
    (hf : ∀ kind, (c.view kind).IsFounded kind) : es.length + c'.size ≤ c.size := by
  induction h with
  | nil => simp
  | cons _ hperform _ ih =>
    have hlt := size_lt hperform hf
    have hrest := ih (isFounded_perform? hperform hf)
    simp only [List.length_cons]
    omega

lemma sum_load_requestsTo_le (requests : List Request) :
    ((requestsTo .stream requests).map Request.load).sum +
      ((requestsTo .datagram requests).map Request.load).sum ≤ 17 * requests.length := by
  induction requests with
  | nil => exact Nat.le_refl 0
  | cons r requests ih =>
    have hload : r.load ≤ 17 := by cases r <;> simp [Request.load]
    have hself := requestsTo_cons_self r requests
    cases hkind : r.kind with
    | stream =>
      rw [hkind] at hself
      rw [hself, requestsTo_cons_of_ne (by simp [hkind]), List.map_cons, List.sum_cons,
        List.length_cons]
      omega
    | datagram =>
      rw [hkind] at hself
      rw [hself, requestsTo_cons_of_ne (by simp [hkind]), List.map_cons, List.sum_cons,
        List.length_cons]
      omega

/-- Whatever happens, and whether it succeeds or fails, a run has an end: there are at most
seventeen events for each request. -/
theorem Run.length_le {requests : List Request} (h : Run allowed { requests } es c) :
    es.length ≤ 17 * requests.length := by
  have hlength := h.length_add_size_le (isFounded_start requests)
  have hsize : ({ requests } : Caller).size =
      ((requestsTo .stream requests).map Request.load).sum +
        ((requestsTo .datagram requests).map Request.load).sum := by
    simp [size, View.size, view_start, System.load, Standing.load]
  have hload := sum_load_requestsTo_le requests
  omega

/-- A run that the thread is not done with can go on. -/
lemma Run.isDone_or_canGoOn {requests : List Request} (h : Run allowed { requests } es c) :
    c.IsDone ∨ c.CanGoOn :=
  or_iff_not_imp_left.2 (canGoOn h.isFounded)

lemma exists_run (hf : ∀ kind, (c.view kind).IsFounded kind) :
    ∃ es c', Run Succeeds c es c' ∧ c'.IsDone := by
  induction hsize : c.size using Nat.strongRecOn generalizing c with
  | ind n ih =>
    by_cases hdone : c.IsDone
    · exact ⟨[], c, Run.nil c, hdone⟩
    · obtain ⟨e, c', he, hperform⟩ := canGoOn hf hdone
      have hlt : c'.size < n := hsize ▸ size_lt hperform hf
      obtain ⟨es, c'', hrun, hdone'⟩ := ih c'.size hlt (isFounded_perform? hperform hf) rfl
      exact ⟨e :: es, c'', Run.cons he hperform hrun, hdone'⟩

/-- Whatever is asked for, a thread can get done without a failure. -/
theorem exists_run_isDone (requests : List Request) :
    ∃ es c, Run Succeeds { requests } es c ∧ c.IsDone :=
  exists_run (isFounded_start requests)

end Caller

end OscRemote
