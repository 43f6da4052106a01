import OscRemote.Proofs.Transport.Step

/-!
# The order of messages in a session

A session is the life of one worker.  While it lasts, the messages accepted since it began are those
that the worker took off the queue, followed by the queue; and at any time, whether the session
still lasts or not, what the worker has written is what it took off the queue, or this and the one
message that it took up last.

A message is taken up, written and taken off the queue in three steps, between which others may
send, close or start another worker.  So the invariant `System.Ordered` speaks of every worker that
was ever started: `Worker.Follows` says for each task of a worker what its record looks like, and,
of the current one only, how the record continues in the queue.
-/

namespace OscRemote

/-- The message that an action sends. -/
def Action.sent? : Action → Option Octets
  | .send message => some message
  | _ => none

/-- The message that a worker has taken up and not taken off the queue. -/
def Task.message? : Task → Option Octets
  | .writing message | .wrote message => some message
  | _ => none

/-! ## The record of a worker -/

namespace Worker

/-- The worker has taken up what it took off the queue, and at most one message more; it has written
what it took off the queue, or all that it took up. -/
def IsSettled (k : Worker) : Prop :=
  k.written = k.popped ∧ k.fetched = k.popped ∨
    ∃ message, k.fetched = k.popped ++ [message] ∧ (k.written = k.popped ∨ k.written = k.fetched)

/-- What the record of a worker looks like at its task. -/
def IsInOrder (k : Worker) : Prop :=
  match k.task with
  | .writing message => k.written = k.popped ∧ k.fetched = k.popped ++ [message]
  | .wrote message => k.written = k.fetched ∧ k.fetched = k.popped ++ [message]
  | .ended => k.IsSettled
  | .opening | .ready | .idle => k.written = k.popped ∧ k.fetched = k.popped

/-- A worker that is in order, and whose record continues in the queue while it is the current
one. -/
structure Follows (k : Worker) (w : Nat) (t : Transport) : Prop where
  inOrder : k.IsInOrder
  fetched : k.fetched <+: k.accepted
  accepted : t.worker = some w → k.accepted = k.popped ++ t.queue
  head : t.worker = some w → ∀ message, k.task.message? = some message →
    t.queue.head? = some message

variable {k : Worker} {w : Nat} {t : Transport}

lemma IsInOrder.isSettled (h : k.IsInOrder) : k.IsSettled := by
  rw [IsInOrder] at h
  split at h
  case h_1 message _ => exact Or.inr ⟨message, h.2, Or.inl h.1⟩
  case h_2 message _ => exact Or.inr ⟨message, h.2, Or.inr h.1⟩
  case h_3 => exact h
  case h_4 | h_5 | h_6 => exact Or.inl h

/-- A worker that has no message in hand has written and taken off all that it took up. -/
lemma IsInOrder.of_task (h : k.IsInOrder) (hk : k.task ∈ [Task.opening, .ready, .idle]) :
    k.written = k.popped ∧ k.fetched = k.popped := by
  cases ht : k.task <;> simp_all [IsInOrder]

/-- A change of the shared state that leaves the queue to the current worker, or makes the worker
the current one no longer. -/
lemma Follows.of_queue_eq {t' : Transport} (h : k.Follows w t)
    (ht : t'.worker = some w → t.worker = some w ∧ t'.queue = t.queue) : k.Follows w t' where
  inOrder := h.inOrder
  fetched := h.fetched
  accepted := by
    intro hw
    obtain ⟨hw, hq⟩ := ht hw
    rw [hq]
    exact h.accepted hw
  head := by
    intro hw
    obtain ⟨hw, hq⟩ := ht hw
    rw [hq]
    exact h.head hw

/-- The record of a worker after a step in which nothing is added to it. -/
structure SameRecord (k k' : Worker) : Prop where
  accepted : k'.accepted = k.accepted
  fetched : k'.fetched = k.fetched
  written : k'.written = k.written
  popped : k'.popped = k.popped

/-- A worker that turns to a task without a message, or ends, keeps its record. -/
lemma Follows.of_sameRecord {k' : Worker} {t' : Transport} (h : k.Follows w t)
    (hr : SameRecord k k') (horder : k'.IsInOrder) (hm : k'.task.message? = none)
    (ht : t'.worker = some w → t.worker = some w ∧ t'.queue = t.queue) : k'.Follows w t' where
  inOrder := horder
  fetched := by
    rw [hr.fetched, hr.accepted]
    exact h.fetched
  accepted := by
    rw [hr.accepted, hr.popped]
    exact (h.of_queue_eq ht).accepted
  head := by
    intro _ message hm'
    rw [hm] at hm'
    cases hm'

lemma Follows.ended {k' : Worker} {t' : Transport} (h : k.Follows w t) (hr : SameRecord k k')
    (hk' : k'.task = .ended)
    (ht : t'.worker = some w → t.worker = some w ∧ t'.queue = t.queue) : k'.Follows w t' := by
  refine h.of_sameRecord hr ?_ (by rw [hk']; rfl) ht
  have hs : k.IsSettled := h.inOrder.isSettled
  rw [IsInOrder, hk']
  rwa [IsSettled, hr.written, hr.fetched, hr.popped]

/-- A worker with nothing in hand turns to looking at the queue, or to waiting for more. -/
lemma Follows.turn {k' : Worker} {t' : Transport} (h : k.Follows w t) (hr : SameRecord k k')
    (hk : k.task ∈ [Task.opening, .ready, .idle]) (hk' : k'.task = .ready ∨ k'.task = .idle)
    (ht : t'.worker = some w → t.worker = some w ∧ t'.queue = t.queue) : k'.Follows w t' := by
  have horder : k'.written = k'.popped ∧ k'.fetched = k'.popped := by
    rw [hr.written, hr.fetched, hr.popped]
    exact h.inOrder.of_task hk
  rcases hk' with hk' | hk'
  · exact h.of_sameRecord hr (by rwa [IsInOrder, hk']) (by rw [hk']; rfl) ht
  · exact h.of_sameRecord hr (by rwa [IsInOrder, hk']) (by rw [hk']; rfl) ht

/-- A worker of a session that begins. -/
lemma follows_start {message : Octets} (ht : t.worker = some w → t.queue = [message]) :
    Follows { accepted := [message] } w t where
  inOrder := ⟨rfl, rfl⟩
  fetched := List.nil_prefix
  accepted := by
    intro hw
    rw [ht hw]
    rfl
  head := by
    intro _ m hm
    cases hm

/-- One more message is accepted while the worker is the current one. -/
lemma Follows.accept {message : Octets} {t' : Transport} (h : k.Follows w t)
    (hw : t.worker = some w) (hq : t'.queue = t.queue ++ [message]) :
    (k.accept message).Follows w t' where
  inOrder := h.inOrder
  fetched := h.fetched.trans (List.prefix_append _ _)
  accepted := by
    intro _
    show k.accepted ++ [message] = k.popped ++ t'.queue
    rw [h.accepted hw, hq, List.append_assoc]
  head := by
    intro _ m hm
    have hhead : t.queue.head? = some m := h.head hw m hm
    rw [hq, List.head?_append, hhead]
    rfl

/-- The worker takes up the message at the head of the queue. -/
lemma Follows.fetch {message : Octets} {rest : List Octets} {t' : Transport} (h : k.Follows w t)
    (ht : k.task = .ready) (hw : t.worker = some w) (hq : t.queue = message :: rest)
    (hq' : t'.queue = t.queue) :
    Follows { k with task := .writing message, fetched := k.fetched ++ [message] } w t' := by
  obtain ⟨hwritten, hfetched⟩ := h.inOrder.of_task (by simp [ht])
  have haccepted : k.accepted = k.popped ++ message :: rest := hq ▸ h.accepted hw
  refine ⟨⟨hwritten, ?_⟩, ?_, ?_, ?_⟩
  · show k.fetched ++ [message] = k.popped ++ [message]
    rw [hfetched]
  · show k.fetched ++ [message] <+: k.accepted
    rw [hfetched, haccepted]
    exact ⟨rest, by simp⟩
  · intro _
    show k.accepted = k.popped ++ t'.queue
    rw [hq', h.accepted hw]
  · intro _ m hm
    rw [hq', hq]
    exact hm

/-- The worker has written the message that it took up. -/
lemma Follows.write {message : Octets} (h : k.Follows w t) (ht : k.task = .writing message) :
    Follows { k.turnTo (.wrote message) with written := k.written ++ [message] } w t := by
  have horder : k.written = k.popped ∧ k.fetched = k.popped ++ [message] := by
    simpa [IsInOrder, ht] using h.inOrder
  refine ⟨⟨?_, horder.2⟩, h.fetched, h.accepted, ?_⟩
  · show k.written ++ [message] = k.fetched
    rw [horder.1, horder.2]
  · intro hw m hm
    exact h.head hw m (by rw [ht]; exact hm)

/-- The worker takes off the queue the message at its head, which is the one that it has written. -/
lemma Follows.complete {message : Octets} (h : k.Follows w t) (ht : k.task = .wrote message)
    (hw : t.worker = some w) :
    Follows { k with task := .ready, popped := k.popped ++ t.queue.take 1 } w t.endWrite := by
  have horder : k.written = k.fetched ∧ k.fetched = k.popped ++ [message] := by
    simpa [IsInOrder, ht] using h.inOrder
  obtain ⟨rest, hq⟩ : ∃ rest, t.queue = message :: rest :=
    List.head?_eq_some_iff.1 (h.head hw message (by rw [ht]; rfl))
  have hpopped : k.popped ++ t.queue.take 1 = k.popped ++ [message] := by
    rw [hq]
    rfl
  refine ⟨⟨?_, ?_⟩, h.fetched, ?_, ?_⟩
  · show k.written = k.popped ++ t.queue.take 1
    rw [hpopped, horder.1, horder.2]
  · show k.fetched = k.popped ++ t.queue.take 1
    rw [hpopped, horder.2]
  · intro _
    show k.accepted = k.popped ++ t.queue.take 1 ++ t.queue.tail
    rw [h.accepted hw, hq]
    simp
  · intro _ m hm
    cases hm

end Worker

/-! ## All workers -/

namespace System

/-- The current worker is the one that was started last, there is nothing in the queue without one,
and every worker that was ever started follows the queue for as long as it is the current one. -/
structure Ordered (s : System) : Prop where
  started : s.transport.started = s.workers.length
  last : ∀ w, s.transport.worker = some w → w + 1 = s.workers.length
  stopped : s.transport.worker = none → s.transport.queue = []
  follows : ∀ (w : Nat) (k : Worker), s.workers[w]? = some k → k.Follows w s.transport

variable {s s' : System} {kind : TransportKind} {a : Action}

lemma ordered_start : Ordered {} where
  started := rfl
  last := by
    intro w hw
    cases hw
  stopped := fun _ => rfl
  follows := by
    intro w k hk
    cases hk

/-- A worker takes a step of its own, and leaves the shared state alone. -/
lemma Ordered.setWorker {w : Nat} {k' : Worker} (h : s.Ordered) (hk' : k'.Follows w s.transport) :
    (s.setWorker w k').Ordered where
  started := by
    rw [length_setWorker]
    exact h.started
  last := by
    rw [length_setWorker]
    exact h.last
  stopped := h.stopped
  follows := by
    intro i k hk
    rcases worker_setWorker hk with ⟨rfl, rfl⟩ | ⟨-, hk⟩
    · exact hk'
    · exact h.follows i k hk

/-- The current worker changes the shared state, and stays the current one or leaves nothing
behind. -/
lemma Ordered.setCurrent {w : Nat} {k' : Worker} {t' : Transport} {n : Nat} (h : s.Ordered)
    (hw : s.transport.worker = some w) (hstarted : t'.started = s.transport.started)
    (ht' : t'.worker = some w ∨ t'.worker = none ∧ t'.queue = []) (hk' : k'.Follows w t') :
    (System.setWorker { s with transport := t', notices := n } w k').Ordered where
  started := by
    rw [length_setWorker]
    exact hstarted.trans h.started
  last := by
    intro i hi
    rw [length_setWorker]
    rcases ht' with ht' | ⟨ht', -⟩
    · obtain rfl : w = i := Option.some.inj (ht'.symm.trans hi)
      exact h.last w hw
    · cases ht'.symm.trans hi
  stopped := by
    intro hn
    rcases ht' with ht' | ⟨-, hq⟩
    · cases ht'.symm.trans hn
    · exact hq
  follows := by
    intro i k hk
    rcases worker_setWorker hk with ⟨rfl, rfl⟩ | ⟨hne, hk⟩
    · exact hk'
    · -- No other worker is the current one, before or after.
      refine (h.follows i k hk).of_queue_eq ?_
      intro hi
      rcases ht' with ht' | ⟨ht', -⟩
      · exact absurd (Option.some.inj (hi.symm.trans ht')) hne
      · cases ht'.symm.trans hi

/-- The current worker ends, and everything is discarded. -/
lemma Ordered.discard {w n : Nat} {k : Worker} {state : ConnectionState} (h : s.Ordered)
    (hk : s.workers[w]? = some k) (hw : s.transport.worker = some w) :
    (System.setWorker { s with transport := s.transport.discard state, notices := n } w
      (k.turnTo .ended)).Ordered := by
  refine h.setCurrent hw rfl (Or.inr ⟨rfl, rfl⟩) ?_
  refine (h.follows w k hk).ended ⟨rfl, rfl, rfl, rfl⟩ rfl ?_
  intro hn
  cases hn

/-- A message is queued for the current worker. -/
lemma Ordered.queue {w : Nat} (h : s.Ordered) (message : Octets)
    (hw : s.transport.worker = some w) :
    (({ s with transport := { s.transport with queue := s.transport.queue ++ [message] } } :
      System).modifyWorker w (·.accept message)).Ordered where
  started := by
    rw [length_modifyWorker]
    exact h.started
  last := by
    rw [length_modifyWorker]
    exact h.last
  stopped := by
    intro hn
    cases hw.symm.trans hn
  follows := by
    intro i k hk
    rcases worker_modifyWorker hk with ⟨rfl, k, hk', rfl⟩ | ⟨hne, hk⟩
    · exact (h.follows i k hk').accept hw rfl
    · refine (h.follows i k hk).of_queue_eq ?_
      intro hi
      exact absurd (Option.some.inj (hi.symm.trans hw)) hne

/-- A message starts a worker. -/
lemma Ordered.start (h : s.Ordered) (message : Octets) (hw : s.transport.worker = none) :
    Ordered { s with
      transport := { s.transport.start kind with queue := s.transport.queue ++ [message] }
      workers := s.workers ++ [{ accepted := [message] }] } where
  started := by
    simp [h.started]
  last := by
    intro w hw'
    simp only [Transport.start_worker, Option.some.injEq] at hw'
    simp [← hw', h.started]
  stopped := by
    intro hn
    simp at hn
  follows := by
    intro i k hk
    rcases worker_append hk with ⟨rfl, rfl⟩ | ⟨hlt, hk⟩
    · refine Worker.follows_start ?_
      intro _
      show s.transport.queue ++ [message] = [message]
      rw [h.stopped hw, List.nil_append]
    · -- The number of the new worker is above those of all before it.
      refine (h.follows i k hk).of_queue_eq ?_
      intro hi
      simp only [Transport.start_worker, Option.some.injEq] at hi
      have := h.started
      omega

/-- The transport is closed, and every worker keeps its record. -/
lemma Ordered.close (h : s.Ordered) {n : Nat} :
    Ordered { s with transport := s.transport.close, notices := n } where
  started := h.started
  last := by
    intro w hw
    cases hw
  stopped := fun _ => rfl
  follows := by
    intro i k hk
    refine (h.follows i k hk).of_queue_eq ?_
    intro hi
    cases hi

/-- Telling a worker to end changes its signal only. -/
lemma Ordered.tellToStop {w : Nat} (h : s.Ordered) :
    (s.modifyWorker w Worker.tellToStop).Ordered where
  started := by
    rw [length_modifyWorker]
    exact h.started
  last := by
    rw [length_modifyWorker]
    exact h.last
  stopped := h.stopped
  follows := by
    intro i k hk
    rcases worker_modifyWorker hk with ⟨rfl, k, hk', rfl⟩ | ⟨-, hk⟩
    · obtain ⟨hinOrder, hfetched, haccepted, hhead⟩ := h.follows i k hk'
      exact ⟨hinOrder, hfetched, haccepted, hhead⟩
    · exact h.follows i k hk

/-- Every step keeps the order. -/
lemma Step.ordered (hs : Step kind s a s') (h : s.Ordered) : s'.Ordered := by
  cases hs with
  | queue message hw => exact h.queue message hw
  | start message hw => exact h.start message hw
  | close hw => exact h.close.tellToStop
  | closeAgain hw => exact h.close
  | await isBounded => exact ⟨h.started, h.last, h.stopped, h.follows⟩
  | check hd hp => exact ⟨h.started, h.last, h.stopped, h.follows⟩
  | giveUp hd hb hp => exact ⟨h.started, h.last, h.stopped, h.follows⟩
  | notice hn => exact ⟨h.started, h.last, h.stopped, h.follows⟩
  | park hk hp =>
    obtain ⟨wake, stop, rfl, -⟩ := Worker.park?_eq_some hp
    obtain ⟨hinOrder, hfetched, haccepted, hhead⟩ := h.follows _ _ hk
    exact h.setWorker ⟨hinOrder, hfetched, haccepted, hhead⟩
  | wake hk hp =>
    obtain ⟨wake, ht, -, rfl⟩ := Worker.resume?_eq_some hp
    refine h.setWorker ((h.follows _ _ hk).turn ⟨rfl, rfl, rfl, rfl⟩ (by simp [ht]) (Or.inl rfl) ?_)
    exact fun hw => ⟨hw, rfl⟩
  | stop hk hp =>
    obtain ⟨stop, -, -, rfl⟩ := Worker.stop?_eq_some hp
    exact h.setWorker ((h.follows _ _ hk).ended ⟨rfl, rfl, rfl, rfl⟩ rfl fun hw => ⟨hw, rfl⟩)
  | opened hk ht hw =>
    refine h.setCurrent hw (by simp) (Or.inl (by simpa using hw)) ?_
    refine (h.follows _ _ hk).turn ⟨rfl, rfl, rfl, rfl⟩ (by simp [ht]) (Or.inl rfl) ?_
    exact fun _ => ⟨hw, by simp⟩
  | openFailed hk ht hw => exact h.discard hk hw
  | fetch hk ht hw hq =>
    exact h.setCurrent hw rfl (Or.inl hw) ((h.follows _ _ hk).fetch ht hw hq rfl)
  | fetchNothing hk ht hw hq =>
    refine h.setWorker ((h.follows _ _ hk).turn ⟨rfl, rfl, rfl, rfl⟩ (by simp [ht]) (Or.inr rfl) ?_)
    exact fun hw => ⟨hw, rfl⟩
  | write hk ht => exact h.setWorker ((h.follows _ _ hk).write ht)
  | writeFailed hk ht hw => exact h.discard hk hw
  | complete hk ht hw =>
    exact h.setCurrent hw rfl (Or.inl hw) ((h.follows _ _ hk).complete ht hw)
  | leaveWaiting hk ha hw =>
    exact h.setWorker ((h.follows _ _ hk).ended ⟨rfl, rfl, rfl, rfl⟩ rfl fun hw => ⟨hw, rfl⟩)
  | leave hk ha hw =>
    exact h.setWorker ((h.follows _ _ hk).ended ⟨rfl, rfl, rfl, rfl⟩ rfl fun hw => ⟨hw, rfl⟩)

lemma Path.ordered {as : List Action} (h : Path kind {} as s) : s.Ordered := by
  refine h.induction (motive := fun _ s => s.Ordered) ordered_start ?_
  intro as a s s' _ hs ih
  exact hs.ordered ih

/-! ## Sessions and what was sent -/

/-- The messages accepted in each session, in the order in which the sessions began. -/
def sessions (s : System) : List (List Octets) := s.workers.map (·.accepted)

lemma length_sessions (s : System) : s.sessions.length = s.workers.length := List.length_map ..

lemma getElem?_sessions {w : Nat} {k : Worker} (hk : s.workers[w]? = some k) :
    s.sessions[w]? = some k.accepted := by
  rw [sessions, List.getElem?_map, hk, Option.map_some]

/-- The sessions after an action: a message goes to the session of the current worker, or begins
one. -/
def sessionsAfter (a : Action) (current : Option Nat) (sessions : List (List Octets)) :
    List (List Octets) :=
  match a.sent?, current with
  | some message, some w => sessions.modify w (· ++ [message])
  | some message, none => sessions ++ [[message]]
  | none, _ => sessions

lemma sessions_setWorker {w : Nat} {k k' : Worker} (hk : s.workers[w]? = some k)
    (ha : k'.accepted = k.accepted) : (s.setWorker w k').sessions = s.sessions := by
  obtain ⟨hlt, rfl⟩ := List.getElem?_eq_some_iff.1 hk
  rw [sessions, System.setWorker, List.map_set, ha, sessions]
  exact List.ext_getElem? fun i => by
    rw [List.getElem?_set]
    split
    case isTrue hi =>
      subst hi
      simp [hlt]
    case isFalse => rfl

lemma sessions_modifyWorker {w : Nat} {f : Worker → Worker} {g : List Octets → List Octets}
    (hf : ∀ k, (f k).accepted = g k.accepted) :
    (s.modifyWorker w f).sessions = s.sessions.modify w g := by
  refine List.ext_getElem? fun i => ?_
  rw [sessions, modifyWorker, List.getElem?_map, List.getElem?_modify, List.getElem?_modify,
    sessions, List.getElem?_map]
  cases s.workers[i]? with
  | none => rfl
  | some k => by_cases hi : w = i <;> simp [hi, hf]

/-- Only sending changes what was accepted, and only in the session of the current worker. -/
lemma Step.sessions_eq (hs : Step kind s a s') :
    s'.sessions = sessionsAfter a s.transport.worker s.sessions := by
  cases hs with
  | queue message hw =>
    rw [hw]
    exact sessions_modifyWorker fun _ => rfl
  | start message hw =>
    rw [hw]
    simp [sessions, sessionsAfter, Action.sent?]
  | close hw =>
    have hsame : ∀ k : Worker, k.tellToStop.accepted = id k.accepted := fun _ => rfl
    rw [sessions_modifyWorker hsame, List.modify_id]
    rfl
  | closeAgain hw => rfl
  | await isBounded => rfl
  | check hd hp => rfl
  | giveUp hd hb hp => rfl
  | notice hn => rfl
  | park hk hp =>
    obtain ⟨wake, stop, rfl, -⟩ := Worker.park?_eq_some hp
    exact sessions_setWorker hk rfl
  | wake hk hp =>
    obtain ⟨wake, -, -, rfl⟩ := Worker.resume?_eq_some hp
    exact sessions_setWorker hk rfl
  | stop hk hp =>
    obtain ⟨stop, -, -, rfl⟩ := Worker.stop?_eq_some hp
    exact sessions_setWorker hk rfl
  | opened hk ht hw => exact sessions_setWorker hk rfl
  | openFailed hk ht hw => exact sessions_setWorker hk rfl
  | fetch hk ht hw hq => exact sessions_setWorker hk rfl
  | fetchNothing hk ht hw hq => exact sessions_setWorker hk rfl
  | write hk ht => exact sessions_setWorker hk rfl
  | writeFailed hk ht hw => exact sessions_setWorker hk rfl
  | complete hk ht hw => exact sessions_setWorker hk rfl
  | leaveWaiting hk ha hw =>
    obtain ⟨rfl | rfl, -⟩ | ⟨rfl, -⟩ := ha <;> exact sessions_setWorker hk rfl
  | leave hk ha hw =>
    obtain ⟨rfl, -⟩ | ⟨rfl, -⟩ := ha <;> exact sessions_setWorker hk rfl

/-- An action that sends nothing leaves the sessions as they are. -/
lemma Step.sessions_of_not_sent (hs : Step kind s a s') (ha : a.sent? = none) :
    s'.sessions = s.sessions := by
  rw [hs.sessions_eq]
  simp [sessionsAfter, ha]

/-- A worker becomes the current one only by being started with a message. -/
lemma Step.worker_eq {w : Nat} (hs : Step kind s a s') (hw' : s'.transport.worker = some w) :
    s.transport.worker = some w ∨
      s.transport.worker = none ∧ w = s.transport.started ∧ ∃ message, a = .send message := by
  cases hs with
  | start message hw =>
    simp only [Transport.start_worker, Option.some.injEq] at hw'
    exact Or.inr ⟨hw, hw'.symm, message, rfl⟩
  | opened hk ht hw => exact Or.inl (by simpa [update] using hw')
  | close | closeAgain | openFailed | writeFailed => cases hw'
  | _ => exact Or.inl hw'

lemma flatten_modify_last {sessions : List (List Octets)} {w : Nat} (message : Octets)
    (h : w + 1 = sessions.length) :
    (sessions.modify w (· ++ [message])).flatten = sessions.flatten ++ [message] := by
  induction sessions generalizing w with
  | nil => cases h
  | cons first rest ih =>
    cases w with
    | zero =>
      obtain rfl : rest = [] := by simpa using h
      simp
    | succ w =>
      rw [List.modify_succ_cons, List.flatten_cons, ih (by simpa using h), List.flatten_cons,
        List.append_assoc]

/-- The sessions divide what was sent, in order: no message is lost, and none is accepted twice. -/
lemma Path.flatten_sessions {as : List Action} (h : Path kind {} as s) :
    s.sessions.flatten = as.filterMap Action.sent? := by
  refine h.induction (motive := fun as s => s.sessions.flatten = as.filterMap Action.sent?) rfl ?_
  intro as a s s' hp hs ih
  rw [hs.sessions_eq, List.filterMap_append, ← ih]
  unfold sessionsAfter
  split
  case h_1 message w ha hw =>
    -- The current session is the last one, so the message comes at the end of everything.
    have hlast : w + 1 = s.sessions.length := by
      rw [length_sessions]
      exact hp.ordered.last w hw
    rw [flatten_modify_last message hlast]
    simp [ha]
  case h_2 message ha hw => simp [ha]
  case h_3 ha => simp [ha]

/-- The run `as` starts worker `w` by sending `first`, and goes on with `after`. -/
def Begins (kind : TransportKind) (as : List Action) (w : Nat) (first : Octets)
    (after : List Action) : Prop :=
  ∃ before s₀ s₁, as = before ++ .send first :: after ∧ Path kind {} before s₀ ∧
    s₀.transport.worker = none ∧ s₀.perform? kind (.send first) = some s₁ ∧
    s₁.transport.worker = some w

lemma Begins.concat {as after : List Action} {w : Nat} {first : Octets}
    (h : Begins kind as w first after) (a : Action) :
    Begins kind (as ++ [a]) w first (after ++ [a]) := by
  obtain ⟨before, s₀, s₁, rfl, h⟩ := h
  exact ⟨before, s₀, s₁, by simp, h⟩

/-- What the session of the current worker has accepted is what was sent since it began. -/
lemma Path.exists_begins {as : List Action} {w : Nat} {accepted : List Octets}
    (h : Path kind {} as s) (hw : s.transport.worker = some w)
    (hs : s.sessions[w]? = some accepted) :
    ∃ first after, Begins kind as w first after ∧
      accepted = first :: after.filterMap Action.sent? := by
  revert w accepted
  refine h.induction (motive := fun as s => ∀ {w accepted}, s.transport.worker = some w →
    s.sessions[w]? = some accepted → ∃ first after, Begins kind as w first after ∧
      accepted = first :: after.filterMap Action.sent?) ?_ ?_
  · intro w accepted hw
    cases hw
  · intro as a s s' hp hs ih w accepted hw' hacc
    rcases hs.worker_eq hw' with hw | ⟨hn, rfl, first, rfl⟩
    · rw [hs.sessions_eq, hw] at hacc
      unfold sessionsAfter at hacc
      split at hacc
      case h_1 message _ ha hw₁ =>
        obtain rfl := Option.some.inj hw₁
        simp only [List.getElem?_modify, if_true] at hacc
        obtain ⟨old, hold, rfl⟩ := Option.map_eq_some_iff.1 hacc
        obtain ⟨first, after, hb, rfl⟩ := ih hw hold
        exact ⟨first, after ++ [a], hb.concat a, by simp [ha]⟩
      case h_2 hn => cases hn
      case h_3 ha =>
        obtain ⟨first, after, hb, rfl⟩ := ih hw hacc
        exact ⟨first, after ++ [a], hb.concat a, by simp [ha]⟩
    · -- The worker is started by this action, so its session has one message.
      refine ⟨first, [], ⟨as, s, s', rfl, hp, hn, perform?_of_step hs, hw'⟩, ?_⟩
      have hlength : s.transport.started = s.sessions.length := by
        rw [length_sessions]
        exact hp.ordered.started
      have hsessions : s'.sessions = s.sessions ++ [[first]] := by
        rw [hs.sessions_eq, hn]
        rfl
      rw [hsessions, hlength, List.getElem?_concat_length] at hacc
      exact (Option.some.inj hacc).symm

/-- After any run of callers and workers, current or not, every message that was sent was accepted by
exactly one session, in order, and without a current worker there is no queue.  What was sent since
the current session began is what its worker has taken off the queue, followed by the queue.  Of any
worker that was ever started, what it took up is a beginning of what its session accepted, and what
it has written is what it took off the queue, or this and the single message that it has taken up
and not taken off. -/
theorem Path.session_order {as : List Action} (h : Path kind {} as s) :
    s.sessions.flatten = as.filterMap Action.sent? ∧
    (s.transport.worker = none → s.transport.queue = []) ∧
    (∀ w, s.transport.worker = some w → ∃ k first after, s.workers[w]? = some k ∧
      Begins kind as w first after ∧
      first :: after.filterMap Action.sent? = k.popped ++ s.transport.queue) ∧
    ∀ k ∈ s.workers, k.fetched <+: k.accepted ∧
      (k.written = k.popped ∨
        ∃ message, k.fetched = k.popped ++ [message] ∧ k.written = k.popped ++ [message]) := by
  have hordered : s.Ordered := h.ordered
  refine ⟨h.flatten_sessions, hordered.stopped, ?_, ?_⟩
  · intro w hw
    have hlt : w < s.workers.length := by
      have := hordered.last w hw
      omega
    have hk : s.workers[w]? = some s.workers[w] := List.getElem?_eq_getElem hlt
    have hsession : s.sessions[w]? = some s.workers[w].accepted := by
      rw [sessions, List.getElem?_map, hk]
      rfl
    obtain ⟨first, after, hb, heq⟩ := h.exists_begins hw hsession
    refine ⟨s.workers[w], first, after, hk, hb, ?_⟩
    rw [← heq]
    exact (hordered.follows w _ hk).accepted hw
  · intro k hk
    obtain ⟨w, hk⟩ := List.getElem?_of_mem hk
    have hf := hordered.follows w k hk
    refine ⟨hf.fetched, ?_⟩
    rcases hf.inOrder.isSettled with ⟨hwritten, -⟩ | ⟨message, hfetched, hwritten | hwritten⟩
    · exact Or.inl hwritten
    · exact Or.inl hwritten
    · exact Or.inr ⟨message, hfetched, hwritten.trans hfetched⟩

/-- A run with two sessions: the first is closed while its worker writes `[1]`, which the worker
does not take off the queue any more; in the second, `[3]` is written and taken off. -/
def restart : List Action :=
  [.send [1], .opened 0, .fetch 0, .send [2], .close, .send [3], .opened 1, .write 0, .fetch 1,
    .complete 0, .write 1, .complete 1, .send [4]]

theorem session_order_restart : ∃ s : System, Path .stream {} restart s ∧
    s.sessions = [[[1], [2]], [[3], [4]]] ∧ s.transport.queue = [[4]] ∧
    s.sessions.flatten = restart.filterMap Action.sent? ∧
    (∀ w, s.transport.worker = some w → ∃ k first after, s.workers[w]? = some k ∧
      Begins .stream restart w first after ∧
      first :: after.filterMap Action.sent? = k.popped ++ s.transport.queue) ∧
    ∀ k ∈ s.workers, k.fetched <+: k.accepted ∧
      (k.written = k.popped ∨
        ∃ message, k.fetched = k.popped ++ [message] ∧ k.written = k.popped ++ [message]) := by
  have h : ∃ s : System, restart.foldlM (fun s a => perform? s .stream a) {} = some s ∧
      s.sessions = [[[1], [2]], [[3], [4]]] ∧ s.transport.queue = [[4]] := ⟨_, rfl, by decide, rfl⟩
  obtain ⟨s, hs, hsessions, hqueue⟩ := h
  obtain ⟨hsent, -, hcurrent, hall⟩ := Path.session_order (path_of_foldlM hs)
  exact ⟨s, path_of_foldlM hs, hsessions, hqueue, hsent, hcurrent, hall⟩

end System

end OscRemote
