import Mathlib.Data.Finset.Card
import Mathlib.Data.Finset.Option
import OscRemote.Proofs.Transport.Drain

/-!
# What closing ends

Closing a transport forgets its worker, but the worker may be anywhere in its work, and learns of it
only when it next looks.  So there may be several workers at a time: one that was forgotten goes on
beside those that are started later, and may itself have been forgotten before another.

What keeps them apart is that every worker asks whether it is the current one before it touches the
queue.  After its session a worker only winds up (`Worker.WindsUp`), and `System.Path.windsUp` says
so of all that follows; a worker that still writes although it is not the current one was forgotten
by some call to close (`System.Path.isClosedOn_of_writing`), and each call forgets one worker at
most (`System.Path.exists_closed_workers`), so that no more messages are written late than there
were calls (`System.Path.length_writtenSince_le`).  As for the sessions that follow, the messages
sent after closing are theirs and no others are (`System.Path.sessions_after_close`).
-/

namespace OscRemote

/-- A transport that was closed, with nothing sent since then. -/
structure Transport.IsClosed (t : Transport) : Prop where
  queue : t.queue = []
  worker : t.worker = none
  isBusy : t.isBusy = false
  state : t.state = .closed

namespace Transport

variable {t : Transport}

lemma isClosed_close (t : Transport) : t.close.IsClosed := ⟨rfl, rfl, rfl, rfl⟩

/-- Closing once more changes nothing. -/
lemma IsClosed.close_eq (h : t.IsClosed) : t.close = t := by
  obtain ⟨hqueue, hworker, hbusy, hstate⟩ := h
  rw [Transport.isBusy, Bool.or_eq_false_iff, Bool.or_eq_false_iff] at hbusy
  obtain ⟨⟨-, hwriting⟩, hconnecting⟩ := hbusy
  cases t
  simp_all [Transport.close, discard]

end Transport

/-! ## Workers that wind up -/

namespace Worker

variable {k k' k'' : Worker}

lemma WindsUp.tellToStop (k : Worker) : k.WindsUp k.tellToStop :=
  .of_sameRecord ⟨rfl, rfl, rfl, rfl⟩ fun _ => id

lemma WindsUp.trans (h : k.WindsUp k') (h' : k'.WindsUp k'') : k.WindsUp k'' where
  accepted := h'.accepted.trans h.accepted
  fetched := h'.fetched.trans h.fetched
  popped := h'.popped.trans h.popped
  written := by
    -- Of two messages that were written, the worker would have taken up the second one in between.
    rcases h.written with ⟨hsame, htask⟩ | ⟨message, hwriting, hwritten, hnone⟩
    · rcases h'.written with ⟨hsame', htask'⟩ | ⟨message, hwriting, hwritten, hnone⟩
      · exact Or.inl ⟨hsame'.trans hsame, fun message ht => htask message (htask' message ht)⟩
      · exact Or.inr ⟨message, htask message hwriting, by rw [hwritten, hsame], hnone⟩
    · rcases h'.written with ⟨hsame', htask'⟩ | ⟨other, hwriting', -⟩
      · refine Or.inr ⟨message, hwriting, hsame'.trans hwritten, ?_⟩
        exact fun other ht => hnone other (htask' other ht)
      · exact absurd hwriting' (hnone other)

/-- A worker has taken up what it has written. -/
lemma IsSettled.written_prefix_fetched (h : k.IsSettled) : k.written <+: k.fetched := by
  rcases h with ⟨hwritten, hfetched⟩ | ⟨message, hfetched, hwritten | hwritten⟩
  · exact hwritten.trans hfetched.symm ▸ List.prefix_rfl
  · rw [hwritten, hfetched]
    exact List.prefix_append _ _
  · exact hwritten ▸ List.prefix_rfl

end Worker

namespace System

variable {kind : TransportKind} {s s' s'' : System} {a : Action} {as : List Action}

/-- However long the others go on, a worker that is not the current one winds up. -/
lemma Path.windsUp (h : Path kind s as s') (ho : s.Ordered) {w : Nat} {k : Worker}
    (hk : s.workers[w]? = some k) (hw : s.transport.worker ≠ some w) :
    ∃ k', s'.workers[w]? = some k' ∧ k.WindsUp k' := by
  induction h generalizing k with
  | nil => exact ⟨k, hk, .refl k⟩
  | cons ha _ ih =>
    have hs := step_of_perform? ha
    obtain ⟨k₁, hk₁, -, hended⟩ := hs.session_of_worker ho hk
    obtain ⟨hfirst, hw₁⟩ := hended hw
    obtain ⟨k', hk', hrest⟩ := ih (hs.ordered ho) hk₁ hw₁
    exact ⟨k', hk', hfirst.trans hrest⟩

/-- Nothing is added to the record of a worker by telling it to end. -/
lemma Step.windsUp_of_close (hs : Step kind s .close s') {w : Nat} {k : Worker}
    (hk : s.workers[w]? = some k) : ∃ k', s'.workers[w]? = some k' ∧ k.WindsUp k' := by
  obtain ⟨i, -, rfl⟩ | ⟨-, rfl⟩ := hs.of_close
  · by_cases hi : i = w
    · refine ⟨k.tellToStop, ?_, .tellToStop k⟩
      simp [modifyWorker, update, hi, hk]
    · refine ⟨k, ?_, .refl k⟩
      simp [modifyWorker, update, hi, hk]
  · exact ⟨k, hk, .refl k⟩

lemma Step.isClosed_of_close (hs : Step kind s .close s') : s'.transport.IsClosed := by
  rw [hs.transport_of_close]
  exact Transport.isClosed_close _

/-- From the call to close on, every worker that there was winds up. -/
lemma Path.windsUp_of_close (h : Path kind s' as s'') (hs : Step kind s .close s')
    (ho : s.Ordered) {w : Nat} {k : Worker} (hk : s.workers[w]? = some k) :
    ∃ k'', s''.workers[w]? = some k'' ∧ k.WindsUp k'' := by
  obtain ⟨k', hk', hclose⟩ := hs.windsUp_of_close hk
  have hnone : s'.transport.worker ≠ some w := by
    rw [hs.isClosed_of_close.worker]
    nofun
  obtain ⟨k'', hk'', hrest⟩ := h.windsUp (hs.ordered ho) hk' hnone
  exact ⟨k'', hk'', hclose.trans hrest⟩

/-- Somewhere in the run, the transport is closed while this worker is the current one and this
message, which it has taken up and not yet written, is at the head of the queue. -/
def IsClosedOn (kind : TransportKind) (as : List Action) (w : Nat) (message : Octets) : Prop :=
  ∃ before s rest k, as = before ++ .close :: rest ∧ Path kind {} before s ∧
    s.transport.worker = some w ∧ s.transport.queue.head? = some message ∧
    s.workers[w]? = some k ∧ k.fetched = k.written ++ [message]

lemma IsClosedOn.concat {w : Nat} {message : Octets} (h : IsClosedOn kind as w message)
    (a : Action) : IsClosedOn kind (as ++ [a]) w message := by
  obtain ⟨before, s, rest, k, rfl, hs⟩ := h
  exact ⟨before, s, rest ++ [a], k, by simp, hs⟩

/-- A worker that writes has taken up one message more than it has written. -/
lemma Path.fetched_of_writing (h : Path kind {} as s) {w : Nat} {k : Worker} {message : Octets}
    (hk : s.workers[w]? = some k) (ht : k.task = .writing message) :
    k.fetched = k.written ++ [message] := by
  have horder : k.written = k.popped ∧ k.fetched = k.popped ++ [message] := by
    simpa [Worker.IsInOrder, ht] using (h.ordered.follows w k hk).inOrder
  rw [horder.1, horder.2]

/-- The current worker writes the message at the head of the queue. -/
lemma Path.head_of_writing (h : Path kind {} as s) {w : Nat} {k : Worker} {message : Octets}
    (hk : s.workers[w]? = some k) (ht : k.task = .writing message)
    (hw : s.transport.worker = some w) : s.transport.queue.head? = some message :=
  (h.ordered.follows w k hk).head hw message (by rw [ht]; rfl)

/-- A worker that writes without being the current one was at it before; and if it was the current
one then, it is closing that makes the difference, for a session that ends in another way is ended
by its worker, which then writes no more. -/
lemma Step.writing_of_not_current (hs : Step kind s a s') (ho : s.Ordered) {w : Nat} {k' : Worker}
    {message : Octets} (hk' : s'.workers[w]? = some k') (ht' : k'.task = .writing message)
    (hw' : s'.transport.worker ≠ some w) :
    ∃ k, s.workers[w]? = some k ∧ k.task = .writing message ∧
      (s.transport.worker = some w → a = .close) := by
  refine hs.forall_workers ho (P := fun w t k => ∀ message, k.task = .writing message →
    t.worker ≠ some w → ∃ k, s.workers[w]? = some k ∧ k.task = .writing message ∧
      (s.transport.worker = some w → a = .close)) ?_ ?_ ?_ ?_ w k' hk' message ht' hw'
  · exact fun hw _ h message ht _ => h message ht hw
  · exact fun _ _ _ => nofun
  · intro w k k' hk hstep hwriting message ht' hw'
    generalize s'.transport = t' at hstep hw'
    cases hstep with
    | tellToStop => exact ⟨k, hk, ht', fun _ => rfl⟩
    | park hp =>
      obtain ⟨wake, stop, rfl, -⟩ := Worker.park?_eq_some hp
      exact hwriting message ht' hw'
    | wake hp =>
      obtain ⟨wake, -, -, rfl⟩ := Worker.resume?_eq_some hp
      cases ht'
    | stop hp =>
      obtain ⟨stop, -, -, rfl⟩ := Worker.stop?_eq_some hp
      cases ht'
    | accept _ hw | fetch _ hw => exact absurd hw hw'
    | opened | fail | fetchNothing | write | complete | leaveWaiting | leave => cases ht'
  · exact fun w k hk message ht hw => ⟨k, hk, ht, fun h => absurd h hw⟩

/-- Where a worker still writes after its session, the transport was closed on it while it did
so. -/
lemma Path.isClosedOn_of_writing (h : Path kind {} as s) {w : Nat} {k : Worker}
    {message : Octets} (hk : s.workers[w]? = some k) (ht : k.task = .writing message)
    (hw : s.transport.worker ≠ some w) : IsClosedOn kind as w message := by
  refine h.induction (motive := fun as s => ∀ w k, s.workers[w]? = some k →
    ∀ message, k.task = .writing message → s.transport.worker ≠ some w →
      IsClosedOn kind as w message) ?_ ?_ w k hk message ht hw
  · intro w k hk
    cases hk
  intro as a s s' hp hs ih w k' hk' message ht' hw'
  obtain ⟨k, hk, ht, hclose⟩ := hs.writing_of_not_current hp.ordered hk' ht' hw'
  by_cases hw : s.transport.worker = some w
  · obtain rfl := hclose hw
    exact ⟨as, s, [], k, rfl, hp, hw, hp.head_of_writing hk ht hw, hk,
      hp.fetched_of_writing hk ht⟩
  · exact (ih w k hk message ht hw).concat a

/-- With the current worker, if there is one, there is at most one worker more. -/
lemma card_union_toFinset_le (ws : Finset Nat) (current : Option Nat) :
    (ws ∪ current.toFinset).card ≤ ws.card + 1 := by
  have hcurrent : current.toFinset.card ≤ 1 := by
    rw [Option.card_toFinset]
    cases current <;> simp
  exact (Finset.card_union_le _ _).trans (Nat.add_le_add_left hcurrent _)

/-- No more workers write after their session than the transport was closed. -/
lemma Path.exists_closed_workers (h : Path kind {} as s) :
    ∃ ws : Finset Nat, ws.card ≤ as.count .close ∧ ∀ w k message, s.workers[w]? = some k →
      k.task = .writing message → s.transport.worker ≠ some w → w ∈ ws := by
  refine h.induction (motive := fun as s => ∃ ws : Finset Nat, ws.card ≤ as.count .close ∧
    ∀ w k message, s.workers[w]? = some k → k.task = .writing message →
      s.transport.worker ≠ some w → w ∈ ws) ?_ ?_
  · refine ⟨∅, Nat.zero_le _, fun w k message hk => ?_⟩
    cases hk
  rintro as a s s' hp hs ⟨ws, hcard, hws⟩
  rw [List.count_append, List.count_singleton]
  by_cases ha : a = .close
  · -- The worker that is forgotten now is one more, if there is one.
    refine ⟨ws ∪ s.transport.worker.toFinset, ?_, fun w k' message hk' ht' hw' => ?_⟩
    · simp only [ha, beq_self_eq_true, if_true]
      exact (card_union_toFinset_le ws _).trans (Nat.add_le_add_right hcard 1)
    · obtain ⟨k, hk, ht, -⟩ := hs.writing_of_not_current hp.ordered hk' ht' hw'
      rw [Finset.mem_union, Option.mem_toFinset]
      by_cases hw : s.transport.worker = some w
      · exact Or.inr hw
      · exact Or.inl (hws w k message hk ht hw)
  · refine ⟨ws, Nat.le_add_right_of_le hcard, fun w k' message hk' ht' hw' => ?_⟩
    obtain ⟨k, hk, ht, hclose⟩ := hs.writing_of_not_current hp.ordered hk' ht' hw'
    exact hws w k message hk ht (mt hclose ha)

/-- What the workers that there were have written since then, one worker after the other. -/
def writtenSince (s s' : System) : List Octets :=
  (List.zipWith (fun k k' : Worker => k'.written.drop k.written.length) s.workers s'.workers).flatten

/-- If each of several lists has at most one element, and only certain lists have one at all, there
are no more elements than such lists. -/
lemma length_flatten_le_card {ms : List (List Octets)} {ws : Finset Nat}
    (h : ∀ w m, ms[w]? = some m → m = [] ∨ m.length = 1 ∧ w ∈ ws) :
    ms.flatten.length ≤ ws.card := by
  induction ms using List.reverseRecOn generalizing ws with
  | nil => exact Nat.zero_le _
  | append_singleton ms m ih =>
    have hrest : ∀ w m', ms[w]? = some m' → w < ms.length ∧ (m' = [] ∨ m'.length = 1 ∧ w ∈ ws) := by
      intro w m' hm'
      have hlt := (List.getElem?_eq_some_iff.1 hm').1
      exact ⟨hlt, h w m' (by rw [List.getElem?_append_left hlt, hm'])⟩
    rw [List.flatten_append, List.length_append, List.flatten_singleton]
    rcases h ms.length m List.getElem?_concat_length with rfl | ⟨hone, hmem⟩
    · exact ih fun w m' hm' => (hrest w m' hm').2
    · -- The last list has its own place, so the others share those that are left.
      have hothers : ms.flatten.length ≤ (ws.erase ms.length).card := by
        refine ih fun w m' hm' => ?_
        obtain ⟨hlt, hm'⟩ := hrest w m' hm'
        exact hm'.imp_right fun ⟨hlength, hw⟩ =>
          ⟨hlength, Finset.mem_erase.2 ⟨Nat.ne_of_lt hlt, hw⟩⟩
      have hcard := Finset.card_erase_add_one hmem
      omega

/-- After the transport was closed, the workers that there were write no more messages, all of them
together, than the transport was closed up to then. -/
lemma Path.length_writtenSince_le (h : Path kind {} as s) (hs : Step kind s .close s')
    {after : List Action} (hafter : Path kind s' after s'') :
    (s.writtenSince s'').length ≤ List.count Action.close (as ++ [.close]) := by
  obtain ⟨ws, hcard, hws⟩ := h.exists_closed_workers
  have hbound : (s.writtenSince s'').length ≤ (ws ∪ s.transport.worker.toFinset).card := by
    refine length_flatten_le_card fun w m hm => ?_
    obtain ⟨k, k'', hk, hk'', rfl⟩ := List.getElem?_zipWith_eq_some.1 hm
    obtain ⟨k₁, hk₁, hwinds⟩ := hafter.windsUp_of_close hs h.ordered hk
    obtain rfl := Option.some.inj (hk''.symm.trans hk₁)
    rcases hwinds.written with ⟨hsame, -⟩ | ⟨message, hwriting, hwritten, -⟩
    · exact Or.inl (by rw [hsame, List.drop_length])
    · refine Or.inr ⟨by rw [hwritten, List.drop_left]; rfl, ?_⟩
      rw [Finset.mem_union, Option.mem_toFinset]
      by_cases hw : s.transport.worker = some w
      · exact Or.inr hw
      · exact Or.inl (hws w k message hk hwriting hw)
  calc (s.writtenSince s'').length
      ≤ (ws ∪ s.transport.worker.toFinset).card := hbound
    _ ≤ ws.card + 1 := card_union_toFinset_le ws _
    _ ≤ as.count .close + 1 := Nat.add_le_add_right hcard 1
    _ = List.count Action.close (as ++ [.close]) := by simp

/-! ## The sessions that follow -/

/-- Where a transport was closed, only something that is sent changes the shared state. -/
lemma Step.transport_eq_of_isClosed (hs : Step kind s a s') (h : s.transport.IsClosed)
    (hsent : a.sent? = none) : s'.transport = s.transport := by
  cases hs with
  | queue | start => cases hsent
  | close hw | opened _ _ hw | openFailed _ _ hw | fetch _ _ hw | writeFailed _ _ hw
  | complete _ _ hw => cases h.worker.symm.trans hw
  | closeAgain => exact h.close_eq
  | await | check | giveUp | notice | park | wake | stop | fetchNothing | write | leaveWaiting
  | leave => rfl

/-- As long as nothing is sent, a transport that was closed stays as it is and no session begins. -/
lemma Path.of_isClosed (h : Path kind s as s') (hclosed : s.transport.IsClosed)
    (hsent : ∀ a ∈ as, a.sent? = none) :
    s'.transport = s.transport ∧ s'.sessions = s.sessions := by
  induction h with
  | nil => exact ⟨rfl, rfl⟩
  | cons ha _ ih =>
    have hs := step_of_perform? ha
    obtain ⟨hfirst, hrest⟩ := List.forall_mem_cons.1 hsent
    have ht := hs.transport_eq_of_isClosed hclosed hfirst
    obtain ⟨htransport, hsessions⟩ := ih (ht ▸ hclosed) hrest
    exact ⟨htransport.trans ht, hsessions.trans (hs.sessions_of_not_sent hfirst)⟩

section AfterClose

variable {after middle rest : List Action} {message : Octets}

/-- The sessions that began before the transport was closed accept nothing more. -/
lemma Path.take_sessions (h : Path kind {} as s) (hs : Step kind s .close s')
    (hafter : Path kind s' after s'') :
    s''.sessions.take s.workers.length = s.sessions := by
  refine List.ext_getElem? fun w => ?_
  rw [List.getElem?_take]
  split
  case isTrue hlt =>
    have hk : s.workers[w]? = some s.workers[w] := List.getElem?_eq_getElem hlt
    obtain ⟨k'', hk'', hwinds⟩ := hafter.windsUp_of_close hs h.ordered hk
    rw [getElem?_sessions hk, getElem?_sessions hk'', hwinds.accepted]
  case isFalse hge =>
    rw [List.getElem?_eq_none]
    rw [length_sessions]
    exact Nat.le_of_not_lt hge

/-- What is sent after the transport was closed is accepted by the sessions that begin after it, in
order, and they accept nothing else. -/
lemma Path.sessions_after_close (h : Path kind {} as s) (hs : Step kind s .close s')
    (hafter : Path kind s' after s'') :
    (s''.sessions.drop s.workers.length).flatten = after.filterMap Action.sent? := by
  have hrun : Path kind {} (as ++ .close :: after) s'' := h.append_cons hs hafter
  have hall : s.sessions.flatten ++ (s''.sessions.drop s.workers.length).flatten =
      s.sessions.flatten ++ after.filterMap Action.sent? := by
    calc s.sessions.flatten ++ (s''.sessions.drop s.workers.length).flatten
        = s''.sessions.flatten := by
          rw [← h.take_sessions hs hafter, ← List.flatten_append, List.take_append_drop]
      _ = (as ++ .close :: after).filterMap Action.sent? := hrun.flatten_sessions
      _ = s.sessions.flatten ++ after.filterMap Action.sent? := by
          rw [List.filterMap_append, h.flatten_sessions]
          rfl
  exact List.append_cancel_left hall

/-- Until a message is sent, the transport stays closed and no worker is started. -/
lemma Path.stays_closed (hs : Step kind s .close s') (hafter : Path kind s' after s'')
    (hsent : ∀ a ∈ after, a.sent? = none) :
    s''.transport = s'.transport ∧ s''.workers.length = s.workers.length := by
  obtain ⟨htransport, hsessions⟩ := hafter.of_isClosed hs.isClosed_of_close hsent
  refine ⟨htransport, ?_⟩
  rw [← length_sessions, hsessions, hs.sessions_of_not_sent rfl, length_sessions]

/-- The first message that is sent after the transport was closed starts the next worker. -/
lemma Path.begins_after_close (h : Path kind {} as s) (hs : Step kind s .close s')
    (hafter : Path kind s' (middle ++ .send message :: rest) s'')
    (hmiddle : ∀ a ∈ middle, a.sent? = none) :
    Begins kind (as ++ .close :: (middle ++ .send message :: rest)) s.workers.length message
      rest := by
  obtain ⟨s₁, hs₁, hrest⟩ := path_append_iff.1 hafter
  obtain ⟨htransport, hlength⟩ := hs₁.stays_closed hs hmiddle
  have hrun : Path kind {} (as ++ .close :: middle) s₁ := h.append_cons hs hs₁
  have hnone : s₁.transport.worker = none := htransport ▸ hs.isClosed_of_close.worker
  cases hrest with
  | cons ha hrest =>
    refine ⟨as ++ .close :: middle, s₁, _, by simp, hrun, hnone, ha, ?_⟩
    obtain ⟨w, hw, -⟩ | ⟨-, rfl⟩ := (step_of_perform? ha).of_send
    · cases hnone.symm.trans hw
    · show (s₁.transport.start kind).worker = _
      rw [Transport.start_worker, hrun.ordered.started, hlength]

/-- The session of the next worker begins with the first message that is sent. -/
lemma Path.accepts_first_after_close (h : Path kind {} as s) (hs : Step kind s .close s')
    (hafter : Path kind s' (middle ++ .send message :: rest) s'')
    (hmiddle : ∀ a ∈ middle, a.sent? = none) :
    ∃ k, s''.workers[s.workers.length]? = some k ∧ k.accepted.head? = some message := by
  have hrun : Path kind {} (as ++ .close :: (middle ++ .send message :: rest)) s'' :=
    h.append_cons hs hafter
  have hflatten := h.sessions_after_close hs hafter
  rw [List.filterMap_append, List.filterMap_eq_nil_iff.2 hmiddle, List.nil_append] at hflatten
  cases hdrop : s''.sessions.drop s.workers.length with
  | nil =>
    rw [hdrop] at hflatten
    cases hflatten
  | cons accepted others =>
    have hsession : s''.sessions[s.workers.length]? = some accepted := by
      rw [← List.head?_drop, hdrop]
      rfl
    rw [sessions, List.getElem?_map, Option.map_eq_some_iff] at hsession
    obtain ⟨k, hk, rfl⟩ := hsession
    -- No session is empty, so the first message that was sent is in this one.
    obtain ⟨first, more, haccepted⟩ :=
      List.exists_cons_of_ne_nil (hrun.hasBegun _ k hk).accepted
    rw [hdrop, List.flatten_cons, haccepted] at hflatten
    refine ⟨k, hk, ?_⟩
    rw [haccepted, (List.cons.inj hflatten).1]
    rfl

end AfterClose

/-- What a worker writes is the one message that it has taken up and not yet written.  For the
current worker this is the head of the queue; on another one the transport was closed, when the
message was at the head of the queue. -/
lemma Path.of_writing (h : Path kind {} as s) {w : Nat} {k : Worker} {message : Octets}
    (hk : s.workers[w]? = some k) (ht : k.task = .writing message) :
    k.fetched = k.written ++ [message] ∧
      (s.transport.worker = some w ∧ s.transport.queue.head? = some message ∨
        s.transport.worker ≠ some w ∧ IsClosedOn kind as w message) := by
  refine ⟨h.fetched_of_writing hk ht, ?_⟩
  by_cases hw : s.transport.worker = some w
  · exact Or.inl ⟨hw, h.head_of_writing hk ht hw⟩
  · exact Or.inr ⟨hw, h.isClosedOn_of_writing hk ht hw⟩

/-- At any time in the life of a transport, whatever its workers are at, closing leaves it without a
queue, a flag or a worker; closing once more changes nothing, nor does anything else until a message
is sent.

Of the sessions that there were, none accepts or takes up a message any more, however the run goes
on.  Of the session that is closed, at most one message is still written, the head of the queue, and
only if its worker had taken it up.  Another worker writes nothing, unless the transport was closed
on it before and it has not yet written what it had taken up by then, which was the head of the
queue; so all the workers that there were write at most one message for each time that the transport
was closed, this time included.

What is sent after closing goes to the sessions that begin after it, and they handle nothing else;
the first of these messages starts the next worker, and its session begins with it. -/
theorem Path.close_ends_session (h : Path kind {} as s) :
    ∃ s', s.perform? kind .close = some s' ∧
      (s'.transport.queue = [] ∧ s'.transport.isWriting = false ∧
        s'.transport.isConnecting = false ∧ s'.transport.worker = none ∧
        s'.transport.state = .closed) ∧
      s'.perform? kind .close = some (s'.update s'.transport) ∧
      ∀ after s'', Path kind s' after s'' →
        (∀ w k, s.workers[w]? = some k → ∃ k'', s''.workers[w]? = some k'' ∧
          k''.accepted = k.accepted ∧ k''.fetched = k.fetched ∧
          (k''.written = k.written ∨ ∃ message, k''.written = k.written ++ [message] ∧
            k.fetched = k.written ++ [message] ∧
            (s.transport.worker = some w ∧ s.transport.queue.head? = some message ∨
              s.transport.worker ≠ some w ∧ IsClosedOn kind as w message))) ∧
        (s.writtenSince s'').length ≤ List.count Action.close (as ++ [.close]) ∧
        (s''.sessions.drop s.workers.length).flatten = after.filterMap Action.sent? ∧
        (∀ k ∈ s''.workers.drop s.workers.length,
          k.fetched <+: k.accepted ∧ k.written <+: k.fetched) ∧
        ((∀ a ∈ after, a.sent? = none) →
          s''.transport = s'.transport ∧ s''.workers.length = s.workers.length) ∧
        ∀ middle message rest, after = middle ++ .send message :: rest →
          (∀ a ∈ middle, a.sent? = none) →
          Begins kind (as ++ .close :: after) s.workers.length message rest ∧
            ∃ k, s''.workers[s.workers.length]? = some k ∧ k.accepted.head? = some message := by
  have hs : Step kind s .close s.close := step_close kind s
  have hclosed : s.close.transport.IsClosed := hs.isClosed_of_close
  refine ⟨s.close, rfl, ?_, ?_, ?_⟩
  · rw [hs.transport_of_close]
    exact ⟨rfl, rfl, rfl, rfl, rfl⟩
  · rw [perform?_of_step (.closeAgain hclosed.worker), hclosed.close_eq]
  · intro after s'' hafter
    have hrun : Path kind {} (as ++ .close :: after) s'' := h.append_cons hs hafter
    refine ⟨?_, h.length_writtenSince_le hs hafter, h.sessions_after_close hs hafter, ?_,
      hafter.stays_closed hs, ?_⟩
    · intro w k hk
      obtain ⟨k'', hk'', hwinds⟩ := hafter.windsUp_of_close hs h.ordered hk
      refine ⟨k'', hk'', hwinds.accepted, hwinds.fetched, ?_⟩
      rcases hwinds.written with ⟨hsame, -⟩ | ⟨message, hwriting, hwritten, -⟩
      · exact Or.inl hsame
      · exact Or.inr ⟨message, hwritten, h.of_writing hk hwriting⟩
    · intro k hk
      obtain ⟨w, hk⟩ := List.getElem?_of_mem (List.mem_of_mem_drop hk)
      have hfollows := hrun.ordered.follows w k hk
      exact ⟨hfollows.fetched, hfollows.inOrder.isSettled.written_prefix_fetched⟩
    · rintro middle message rest rfl hmiddle
      exact ⟨h.begins_after_close hs hafter hmiddle,
        h.accepts_first_after_close hs hafter hmiddle⟩

/-- The transport is closed while its worker writes `[1]`; the next worker is there and has taken up
`[3]` before the one before it has written and ends.  `[2]` is never taken up. -/
theorem close_ends_session_raced : ∃ s s' s'' : System,
    Path .stream {} [.send [1], .opened 0, .fetch 0, .send [2]] s ∧
    s.perform? .stream .close = some s' ∧
    Path .stream s' [.send [3], .opened 1, .fetch 1, .write 0, .complete 0, .write 1] s'' ∧
    s''.workers.map (·.written) = [[[1]], [[3]]] ∧
    (∃ k, s''.workers[0]? = some k ∧ k.accepted = [[1], [2]] ∧ k.fetched = [[1]]) ∧
    (s.writtenSince s'').length ≤ 1 ∧ (s''.sessions.drop 1).flatten = [[3]] ∧
    ∃ k, s''.workers[1]? = some k ∧ k.accepted.head? = some [3] := by
  have h : ∃ s s'', [Action.send [1], .opened 0, .fetch 0, .send [2]].foldlM
        (fun s a => perform? s .stream a) {} = some s ∧
      [Action.send [3], .opened 1, .fetch 1, .write 0, .complete 0, .write 1].foldlM
        (fun s a => perform? s .stream a) s.close = some s'' ∧
      s.workers.map (fun k => (k.accepted, k.fetched)) = [([[1], [2]], [[1]])] ∧
      s''.workers.map (·.written) = [[[1]], [[3]]] := ⟨_, _, rfl, rfl, by decide, by decide⟩
  obtain ⟨s, s'', hs, hafter, hworkers, hwritten⟩ := h
  obtain ⟨s', hclose, -, -, hends⟩ := Path.close_ends_session (path_of_foldlM hs)
  obtain rfl : s.close = s' := Option.some.inj hclose
  obtain ⟨hold, hfew, hsent, -, -, hnext⟩ := hends _ s'' (path_of_foldlM hafter)
  obtain ⟨k, hlist, hk⟩ := List.map_eq_singleton_iff.1 hworkers
  obtain ⟨k'', hk'', haccepted, hfetched, -⟩ := hold 0 k (by rw [hlist]; rfl)
  obtain ⟨hacc, hfet⟩ := Prod.mk.inj hk
  rw [hlist] at hsent hnext
  refine ⟨s, s.close, s'', path_of_foldlM hs, hclose, path_of_foldlM hafter, hwritten, ?_, hfew,
    hsent, ?_⟩
  · exact ⟨k'', hk'', haccepted.trans hacc, hfetched.trans hfet⟩
  · exact (hnext [] [3] _ rfl nofun).2

/-- Closing twice can leave two messages to be written: the transport is closed on a worker that has
taken up `[1]`, and then on the next one, which has taken up `[2]`.  Both are written afterwards,
though only `[2]` was at the head of the queue. -/
theorem two_written_after_close : ∃ s s' s'' : System,
    Path .stream {} [.send [1], .opened 0, .fetch 0, .close, .send [2], .opened 1, .fetch 1] s ∧
    s.sessions = [[[1]], [[2]]] ∧ s.transport.queue = [[2]] ∧
    s.perform? .stream .close = some s' ∧ Path .stream s' [.write 0, .write 1] s'' ∧
    s.writtenSince s'' = [[1], [2]] :=
  ⟨_, _, _, path_of_foldlM rfl, rfl, rfl, rfl, path_of_foldlM rfl, by decide⟩

end System

end OscRemote
