import OscRemote.Proofs.Transport.Local

/-!
# Nobody waits in vain

Whether there is anything to wait for is looked at in one step, and parked in another; between the
two, others may queue messages, take them off or close.  So it has to be seen that nobody parks for
something that has already happened, with the notification spent.

`Worker.Attends` says of one worker what its two signals have to be like: a current worker that
waits for more messages while there are some has a notification for it, and a worker that is the
current one no longer, and has not ended, has been told to end.  `System.Prompts` says that a caller
who waits for an idle transport will be woken.
-/

namespace OscRemote

/-! ## Signals -/

namespace Signal

/-- Nobody is parked on a signal that has a permit. -/
def IsOrderly (s : Signal) : Prop := s.waiter = .parked → s.permit = false

variable {s s' : Signal}

lemma isOrderly_notify (s : Signal) : s.notify.IsOrderly := by
  unfold Signal.notify
  split
  · nofun
  case h_2 hp => exact fun hparked => absurd hparked hp

lemma isOrderly_leave (s : Signal) : s.leave.IsOrderly := nofun

lemma park?_eq_some (h : s.park? = some s') : s'.IsOrderly ∧ s'.isReady = s.isReady := by
  rw [park?] at h
  obtain ⟨⟨habsent, hpermit⟩, rfl⟩ := Option.ite_some_none_eq_some.1 h
  refine ⟨fun _ => hpermit, ?_⟩
  rw [isReady, isReady, habsent]
  rfl

/-- Whoever goes on by a signal could do so, and is parked on it no longer. -/
lemma receive?_eq_some (h : s.receive? = some s') : s.isReady = true ∧ s'.waiter = .absent := by
  rw [receive?] at h
  split at h
  case h_1 hw =>
    obtain rfl := Option.some.inj h
    exact ⟨by simp [isReady, hw], rfl⟩
  case h_2 hw hp =>
    obtain rfl := Option.some.inj h
    exact ⟨by simp [isReady, hp], hw⟩
  case h_3 => cases h

lemma isOrderly_of_receive? (h : s.receive? = some s') : s'.IsOrderly := by
  intro hparked
  rw [(receive?_eq_some h).2] at hparked
  cases hparked

/-- A signal by which one can go on lets one do so. -/
lemma IsOrderly.exists_receive? (h : s.IsOrderly) (hready : s.isReady = true) :
    ∃ s', s.receive? = some s' := by
  rcases s with ⟨permit, waiter⟩
  cases waiter with
  | absent =>
    obtain rfl : permit = true := by simpa [isReady] using hready
    exact ⟨_, rfl⟩
  | parked =>
    obtain rfl : permit = false := h rfl
    cases hready
  | woken => exact ⟨_, rfl⟩

end Signal

/-! ## Workers -/

namespace Worker

/-- What the signals of worker `w` are like.  The current worker has not ended and was not told to,
and if it waits for more messages while there are some, it was told of them; any other worker has
ended or was told to. -/
structure Attends (w : Nat) (t : Transport) (k : Worker) : Prop where
  wakeOrderly : k.wake.IsOrderly
  stopOrderly : k.stop.IsOrderly
  notEnded : t.worker = some w → k.task ≠ .ended
  notStopped : t.worker = some w → k.stop.isReady = false
  woken : t.worker = some w → k.task = .idle → t.queue ≠ [] → k.wake.isReady = true
  stopped : t.worker ≠ some w → k.task ≠ .ended → k.stop.isReady = true

variable {kind : TransportKind} {w : Nat} {t t' : Transport} {k k' : Worker} {a : Action}

/-- A worker that was just started. -/
lemma attends_start {message : Octets} (hw : t.worker = some w) :
    Attends w t { accepted := [message] } where
  wakeOrderly := nofun
  stopOrderly := nofun
  notEnded := nofun
  notStopped _ := rfl
  woken := nofun
  stopped hne := absurd hw hne

/-- Of a worker that is not the current one it does not matter what becomes of the shared state. -/
lemma Attends.of_not_current (h : k.Attends w t) (ht : t.worker ≠ some w)
    (ht' : t'.worker ≠ some w) : k.Attends w t' where
  wakeOrderly := h.wakeOrderly
  stopOrderly := h.stopOrderly
  notEnded hw := absurd hw ht'
  notStopped hw := absurd hw ht'
  woken hw := absurd hw ht'
  stopped _ := h.stopped ht

/-- A worker that ends attends to nothing any more. -/
lemma attends_ended (hk : k.task = .ended) (hwake : k.wake.IsOrderly) (hstop : k.stop.IsOrderly)
    (ht : t.worker ≠ some w) : k.Attends w t where
  wakeOrderly := hwake
  stopOrderly := hstop
  notEnded hw := absurd hw ht
  notStopped hw := absurd hw ht
  woken hw := absurd hw ht
  stopped _ hne := absurd hk hne

/-- A worker goes on to a task at which it does not wait for more messages. -/
lemma Attends.turn (h : k.Attends w t) (hwake : k'.wake.IsOrderly) (hstop : k'.stop.IsOrderly)
    (hready : k'.stop.isReady = k.stop.isReady) (hk : k.task ≠ .ended) (hk' : k'.task ≠ .ended)
    (hidle : k'.task ≠ .idle) (ht : t'.worker = t.worker) : k'.Attends w t' where
  wakeOrderly := hwake
  stopOrderly := hstop
  notEnded _ := hk'
  notStopped hw := hready.trans (h.notStopped (ht ▸ hw))
  woken _ hi := absurd hi hidle
  stopped hw _ := hready.trans (h.stopped (ht ▸ hw) hk)

lemma Attends.park (h : k.Attends w t) (hp : k.park? = some k') : k'.Attends w t := by
  obtain ⟨wake, stop, rfl, hstop, hwake⟩ := park?_eq_some hp
  obtain ⟨hstopOrderly, hstopReady⟩ := Signal.park?_eq_some hstop
  have hwake : wake.IsOrderly ∧ wake.isReady = k.wake.isReady := by
    rcases hwake with ⟨-, hwake⟩ | ⟨-, -, rfl⟩
    · exact Signal.park?_eq_some hwake
    · exact ⟨h.wakeOrderly, rfl⟩
  exact {
    wakeOrderly := hwake.1
    stopOrderly := hstopOrderly
    notEnded := h.notEnded
    notStopped := fun hw => hstopReady.trans (h.notStopped hw)
    woken := fun hw hi hq => hwake.2.trans (h.woken hw hi hq)
    stopped := fun hw hne => hstopReady.trans (h.stopped hw hne) }

/-- What a worker has to attend to after a step that concerns it. -/
lemma Step.attends (hs : Step kind w t k a t' k') (h : k.Attends w t) : k'.Attends w t' := by
  cases hs with
  | accept message hw =>
    exact {
      wakeOrderly := Signal.isOrderly_notify _
      stopOrderly := h.stopOrderly
      notEnded := h.notEnded
      notStopped := h.notStopped
      woken := fun _ _ _ => Signal.isReady_notify k.wake
      stopped := fun hne => absurd hw hne }
  | tellToStop hw =>
    exact {
      wakeOrderly := h.wakeOrderly
      stopOrderly := Signal.isOrderly_notify _
      notEnded := nofun
      notStopped := nofun
      woken := nofun
      stopped := fun _ _ => Signal.isReady_notify k.stop }
  | park hp => exact h.park hp
  | wake hp =>
    obtain ⟨wake, ht, hwake, rfl⟩ := resume?_eq_some hp
    refine h.turn (Signal.isOrderly_of_receive? hwake) (Signal.isOrderly_leave _)
      (Signal.isReady_leave _) ?_ nofun nofun rfl
    rw [ht]
    nofun
  | stop hp =>
    obtain ⟨stop, -, hstop, rfl⟩ := stop?_eq_some hp
    -- Only a worker that was told to end is stopped, and the current one was not.
    refine attends_ended rfl (Signal.isOrderly_leave _) (Signal.isOrderly_of_receive? hstop) ?_
    intro hw
    have hready := (Signal.receive?_eq_some hstop).1
    rw [h.notStopped hw] at hready
    cases hready
  | opened ht hw =>
    refine h.turn h.wakeOrderly (Signal.isOrderly_leave _) (Signal.isReady_leave _) ?_ nofun nofun
      (by simp)
    rw [ht]
    nofun
  | fail hw ha => exact attends_ended rfl h.wakeOrderly (Signal.isOrderly_leave _) nofun
  | fetch ht hw hq =>
    refine h.turn h.wakeOrderly h.stopOrderly rfl ?_ nofun nofun rfl
    rw [ht]
    nofun
  | fetchNothing ht hw hq =>
    exact {
      wakeOrderly := h.wakeOrderly
      stopOrderly := h.stopOrderly
      notEnded := nofun
      notStopped := h.notStopped
      woken := fun _ _ hne => absurd hq hne
      stopped := fun hne => absurd hw hne }
  | write ht =>
    refine h.turn h.wakeOrderly (Signal.isOrderly_leave _) (Signal.isReady_leave _) ?_ nofun nofun
      rfl
    rw [ht]
    nofun
  | complete ht hw =>
    refine h.turn h.wakeOrderly h.stopOrderly rfl ?_ nofun nofun rfl
    rw [ht]
    nofun
  | leaveWaiting ha hw => exact attends_ended rfl h.wakeOrderly (Signal.isOrderly_leave _) hw
  | leave hw ha => exact attends_ended rfl h.wakeOrderly h.stopOrderly hw

end Worker

/-! ## Callers -/

namespace System

variable {kind : TransportKind} {s s' : System} {a : Action}

/-- While a caller is parked, there is something to wait for, or a notice is owed. -/
def Prompts (s : System) : Prop :=
  ∀ d ∈ s.waits, d.phase = .parked → s.transport.isBusy = true ∨ s.notices ≠ 0

lemma prompts_of_notices (h : s.notices ≠ 0) : s.Prompts := fun _ _ _ => Or.inr h

/-- A step that changes nothing for the waiting callers, and after which there is as much to wait
for as before. -/
lemma Prompts.of_isBusy (h : s.Prompts) (hwaits : s'.waits = s.waits)
    (hnotices : s'.notices = s.notices)
    (hbusy : s.transport.isBusy = true → s'.transport.isBusy = true) : s'.Prompts := by
  intro d hd hp
  rw [hwaits] at hd
  rw [hnotices]
  exact (h d hd hp).imp_left hbusy

/-- A queued message is something to wait for. -/
lemma isBusy_of_queue {t : Transport} (h : t.queue ≠ []) : t.isBusy = true := by
  simp [Transport.isBusy, h]

lemma prompts_of_queue (h : s.transport.queue ≠ []) : s.Prompts :=
  fun _ _ _ => Or.inl (isBusy_of_queue h)

lemma forall_mem_setWait {P : WaitPhase → Prop} {i : Nat} {phase : WaitPhase}
    (h : ∀ d ∈ s.waits, P d.phase) (hphase : P phase) :
    ∀ d ∈ (s.setWait i phase).waits, P d.phase := by
  intro d hd
  obtain ⟨j, hj⟩ := List.getElem?_of_mem hd
  rw [System.setWait, List.getElem?_modify] at hj
  obtain ⟨e, he, rfl⟩ := Option.map_eq_some_iff.1 hj
  split
  · exact hphase
  · exact h e (List.mem_of_getElem? he)

/-- A wait moves to a phase in which it is not parked, or is parked while there is something to wait
for. -/
lemma Prompts.setWait {i : Nat} {phase : WaitPhase} (h : s.Prompts)
    (hphase : phase = .parked → s.transport.isBusy = true) : (s.setWait i phase).Prompts :=
  forall_mem_setWait (P := fun p => p = .parked → s.transport.isBusy = true ∨ s.notices ≠ 0) h
    fun hp => Or.inl (hphase hp)

lemma Step.prompts (hs : Step kind s a s') (h : s.Prompts) : s'.Prompts := by
  cases hs with
  | queue message hw => exact prompts_of_queue (List.concat_ne_nil _ _)
  | start message hw => exact prompts_of_queue (List.concat_ne_nil _ _)
  | close | closeAgain | opened | openFailed | writeFailed => exact prompts_of_notices (by nofun)
  | await isBounded =>
    intro d hd hp
    rcases List.mem_append.1 hd with hd | hd
    · exact h d hd hp
    · obtain rfl := List.mem_singleton.1 hd
      cases hp
  | check hd hp =>
    refine h.setWait ?_
    cases hbusy : s.transport.isBusy with
    | true => exact fun _ => rfl
    | false => nofun
  | giveUp hd hb hp => exact h.setWait nofun
  | notice hn =>
    -- Nobody is parked after a notice.
    intro d hd hp
    obtain ⟨d', -, rfl⟩ := List.mem_map.1 hd
    split at hp
    case isTrue => cases hp
    case isFalse hne => exact absurd hp hne
  | park | wake | stop | fetchNothing | write | leaveWaiting | leave =>
    exact h.of_isBusy rfl rfl id
  | fetch hk ht hw hq =>
    refine prompts_of_queue ?_
    show s.transport.queue ≠ []
    rw [hq]
    exact List.cons_ne_nil _ _
  | complete hk ht hw =>
    -- The last message that is taken off the queue brings a notice with it.
    cases hq : s.transport.endWrite.queue with
    | nil => exact prompts_of_notices (by simp [System.setWorker])
    | cons message rest =>
      refine prompts_of_queue ?_
      show s.transport.endWrite.queue ≠ []
      rw [hq]
      exact List.cons_ne_nil _ _

/-! ## Runs -/

lemma Path.attends {as : List Action} (h : Path kind {} as s) :
    ∀ w k, s.workers[w]? = some k → Worker.Attends w s.transport k := by
  refine h.induction
    (motive := fun _ s => ∀ w k, s.workers[w]? = some k → Worker.Attends w s.transport k) ?_ ?_
  · intro w k hk
    cases hk
  intro as a s s' hp hs ih
  refine hs.forall_workers hp.ordered (P := Worker.Attends) ?_ ?_ ?_ ih
  · exact fun ht ht' h => h.of_not_current ht ht'
  · intro message _ ht
    exact Worker.attends_start (by simp [ht])
  · exact fun _ hstep h => hstep.attends h

lemma Path.prompts {as : List Action} (h : Path kind {} as s) : s.Prompts :=
  h.induction (motive := fun _ s => s.Prompts) nofun fun _ _ _ _ _ hs ih => hs.prompts ih

/-- A worker that was told of more messages can go on. -/
lemma exists_perform?_wake {w : Nat} {k : Worker} (hk : s.workers[w]? = some k)
    (ht : k.task = .idle) (horderly : k.wake.IsOrderly) (hready : k.wake.isReady = true) :
    ∃ s', s.perform? kind (.wake w) = some s' := by
  obtain ⟨wake, hwake⟩ := horderly.exists_receive? hready
  have hresume : k.resume? = some { k with task := .ready, wake, stop := k.stop.leave } := by
    simp [Worker.resume?, ht, hwake]
  exact ⟨_, perform?_of_step (.wake hk hresume)⟩

/-- A worker that was told to end can do so where it waits. -/
lemma exists_perform?_stop {w : Nat} {k : Worker} (hk : s.workers[w]? = some k)
    (ht : k.task.isWaiting = true) (horderly : k.stop.IsOrderly) (hready : k.stop.isReady = true) :
    ∃ s', s.perform? kind (.stop w) = some s' := by
  obtain ⟨stop, hstop⟩ := horderly.exists_receive? hready
  have hended : k.stop? = some { k with task := .ended, wake := k.wake.leave, stop } := by
    simp [Worker.stop?, ht, hstop]
  exact ⟨_, perform?_of_step (.stop hk hended)⟩

/-- In whatever a run of callers and workers leads to, nobody waits in vain.  A current worker that
waits for more messages while there are some has a notification of them and can go on; a worker that
is the current one no longer, and waits for anything, has been told to end and can end; and if a
caller is parked while there is nothing to wait for, someone still owes the waiting callers a notice
and can give it. -/
theorem Reachable.nobody_waits_in_vain (h : Reachable kind s) :
    (∀ w k, s.workers[w]? = some k → s.transport.worker = some w → k.task = .idle →
      s.transport.queue ≠ [] →
      k.wake.isReady = true ∧ ∃ s', s.perform? kind (.wake w) = some s') ∧
    (∀ w k, s.workers[w]? = some k → s.transport.worker ≠ some w → k.task.isWaiting = true →
      k.stop.isReady = true ∧ ∃ s', s.perform? kind (.stop w) = some s') ∧
    ∀ d ∈ s.waits, d.phase = .parked → s.transport.isBusy = false →
      s.notices ≠ 0 ∧ s.perform? kind .notice = some s.notice := by
  obtain ⟨as, hpath⟩ := h
  refine ⟨?_, ?_, ?_⟩
  · intro w k hk hw ht hq
    have hattends := hpath.attends w k hk
    have hready := hattends.woken hw ht hq
    exact ⟨hready, exists_perform?_wake hk ht hattends.wakeOrderly hready⟩
  · intro w k hk hw ht
    have hattends := hpath.attends w k hk
    have hne : k.task ≠ .ended := by
      intro hended
      rw [hended] at ht
      cases ht
    have hready := hattends.stopped hw hne
    exact ⟨hready, exists_perform?_stop hk ht hattends.stopOrderly hready⟩
  · intro d hd hp hbusy
    have hn : s.notices ≠ 0 := by
      rcases hpath.prompts d hd hp with htrue | hn
      · rw [hbusy] at htrue
        cases htrue
      · exact hn
    exact ⟨hn, perform?_of_step (.notice hn)⟩

/-- A worker is told to end while it opens, and the next one waits for more messages when one is
sent. -/
def replaced : List Action :=
  [.send [1], .close, .send [2], .opened 1, .fetch 1, .write 1, .complete 1, .fetch 1, .park 1,
    .send [3]]

/-- A caller is parked when another one closes. -/
def closedMeanwhile : List Action := [.send [1], .await false, .check 0, .close]

theorem nobody_waits_in_vain_replaced :
    (∃ s : System, Path .stream {} replaced s ∧ s.transport.queue = [[3]] ∧
      (∃ s', s.perform? .stream (.wake 1) = some s') ∧
      ∃ s', s.perform? .stream (.stop 0) = some s') ∧
    ∃ s : System, Path .stream {} closedMeanwhile s ∧ s.waits = [⟨false, .parked⟩] ∧
      s.transport.isBusy = false ∧ s.perform? .stream .notice = some s.notice := by
  have h : ∃ s k₀ k₁, replaced.foldlM (fun s a => perform? s .stream a) {} = some s ∧
      s.transport.queue = [[3]] ∧ s.transport.worker = some 1 ∧
      s.workers[0]? = some k₀ ∧ k₀.task = .opening ∧
      s.workers[1]? = some k₁ ∧ k₁.task = .idle ∧ k₁.wake = ⟨false, .woken⟩ :=
    ⟨_, _, _, rfl, rfl, rfl, rfl, rfl, rfl, rfl, rfl⟩
  have h' : ∃ s, closedMeanwhile.foldlM (fun s a => perform? s .stream a) {} = some s ∧
      s.waits = [⟨false, .parked⟩] ∧ s.transport.isBusy = false := ⟨_, rfl, rfl, rfl⟩
  obtain ⟨s, k₀, k₁, hs, hq, hw, hk₀, ht₀, hk₁, ht₁, -⟩ := h
  obtain ⟨s', hs', hwaits, hbusy⟩ := h'
  obtain ⟨hwake, hstop, -⟩ := Reachable.nobody_waits_in_vain ⟨_, path_of_foldlM hs⟩
  obtain ⟨-, -, hnotice⟩ := Reachable.nobody_waits_in_vain ⟨_, path_of_foldlM hs'⟩
  refine ⟨⟨s, path_of_foldlM hs, hq, ?_, ?_⟩, s', path_of_foldlM hs', hwaits, hbusy, ?_⟩
  · exact (hwake 1 k₁ hk₁ hw ht₁ (by simp [hq])).2
  · exact (hstop 0 k₀ hk₀ (by simp [hw]) (by simp [ht₀, Task.isWaiting])).2
  · exact (hnotice ⟨false, .parked⟩ (by simp [hwaits]) rfl hbusy).2

end System

end OscRemote
