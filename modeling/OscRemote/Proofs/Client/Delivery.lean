import OscRemote.Proofs.Client.Caller

/-!
# What arrives when nothing fails

If a thread waits until a transport is idle before it closes it, and nothing fails, then nothing is
discarded and no worker is interrupted: every worker that is the current one no longer has written
all that its session accepted (`Worker.IsFinished`), and what has arrived is what the workers have
written, in the order in which they were started (`View.Delivers`).

The requests alone say what the sessions will be.  Each close divides them, and every piece with a
message in it is one session: `View.deliveries` are the sessions so far, with those that the
remaining requests will bring, and no step changes them.
-/

namespace OscRemote

/-! ## What is to arrive -/

namespace Arrival

/-- What arrives of a session: the connection of its worker, then the messages. -/
def ofSession (w : Nat) (messages : List Octets) : List Arrival :=
  connection w :: messages.map (message w)

/-- What arrives of sessions, one after the other. -/
def log (sessions : List (List Octets)) : List Arrival := (sessions.mapIdx ofSession).flatten

lemma log_concat (sessions : List (List Octets)) (messages : List Octets) :
    log (sessions ++ [messages]) = log sessions ++ ofSession sessions.length messages := by
  simp [log, List.mapIdx_append]

end Arrival

namespace Outlet

variable {o : Outlet} {sessions : List (List Octets)}

lemma connections_of_log (h : o.arrivals = Arrival.log sessions) :
    o.connections = List.range sessions.length := by
  rw [connections, h]
  clear h
  induction sessions using List.reverseRecOn with
  | nil => rfl
  | append_singleton sessions messages ih =>
    rw [Arrival.log_concat, List.filterMap_append, ih, List.length_append, List.length_singleton,
      List.range_succ]
    simp [Arrival.ofSession, List.filterMap_map]

lemma octetsOf_of_log (h : o.arrivals = Arrival.log sessions) (w : Nat) :
    o.octetsOf w = frames (sessions[w]?.getD []) := by
  rw [octetsOf, h]
  clear h
  induction sessions using List.reverseRecOn with
  | nil => rfl
  | append_singleton sessions messages ih =>
    rw [Arrival.log_concat, List.flatMap_append, ih]
    rcases Nat.lt_trichotomy w sessions.length with hw | rfl | hw
    · simp [Arrival.ofSession, List.flatMap_map, Nat.ne_of_gt hw, List.getElem?_append_left hw]
    · simp [Arrival.ofSession, List.flatMap_map, frames]
    · have hnone : (sessions ++ [messages])[w]? = none :=
        List.getElem?_eq_none (by rw [List.length_append, List.length_singleton]; omega)
      simp [Arrival.ofSession, List.flatMap_map, Nat.ne_of_lt hw, Nat.le_of_lt hw, hnone]

/-- Of sessions, the frames of their messages arrive, each session on a connection of its own. -/
lemma streams_of_log (h : o.arrivals = Arrival.log sessions) : o.streams = sessions.map frames := by
  rw [streams, connections_of_log h]
  refine List.ext_getElem (by simp) ?_
  intro w _ hw
  have hlt : w < sessions.length := by simpa using hw
  simp [octetsOf_of_log h, hlt]

/-- Of sessions, their messages arrive. -/
lemma messages_of_log (h : o.arrivals = Arrival.log sessions) : o.messages = sessions.flatten := by
  rw [messages, h]
  clear h
  induction sessions using List.reverseRecOn with
  | nil => rfl
  | append_singleton sessions messages ih =>
    rw [Arrival.log_concat, List.filterMap_append, ih]
    simp [Arrival.ofSession, List.filterMap_map]

/-- Of sessions nothing arrives that was interrupted. -/
lemma not_interrupted_of_log (h : o.arrivals = Arrival.log sessions) (w : Nat) :
    .interrupted w ∉ o.arrivals := by
  rw [h, Arrival.log, List.mem_flatten]
  rintro ⟨arrivals, hmem, hw⟩
  obtain ⟨i, hi, rfl⟩ := List.mem_mapIdx.1 hmem
  simp [Arrival.ofSession] at hw

end Outlet

/-- The messages of sessions that requests for one transport lead to, with those that the current
session has: every close begins another one. -/
def stretches (held : List Octets) : List Request → List (List Octets)
  | [] => [held]
  | .send _ message :: rest => stretches (held ++ [message]) rest
  | .drain _ _ :: rest => stretches held rest
  | .close _ :: rest => held :: stretches [] rest

/-- The pieces with a message in them. -/
def nonempty (pieces : List (List Octets)) : List (List Octets) := pieces.filter (!·.isEmpty)

@[simp] lemma nonempty_nil : nonempty [] = [] := rfl

@[simp] lemma nonempty_nil_cons (pieces : List (List Octets)) :
    nonempty ([] :: pieces) = nonempty pieces := rfl

lemma nonempty_cons {piece : List Octets} (h : piece ≠ []) (pieces : List (List Octets)) :
    nonempty (piece :: pieces) = piece :: nonempty pieces := by
  simp [nonempty, h]

lemma nonempty_append (first second : List (List Octets)) :
    nonempty (first ++ second) = nonempty first ++ nonempty second := List.filter_append ..

lemma nonempty_cons_congr (piece : List Octets) {pieces pieces' : List (List Octets)}
    (h : nonempty pieces = nonempty pieces') :
    nonempty (piece :: pieces) = nonempty (piece :: pieces') := by
  rw [← List.singleton_append, nonempty_append, h, ← nonempty_append, List.singleton_append]

/-- Whether requests for one transport wait until it is idle before they close it, with nothing sent
in between, and leave it idle.  It may have been waited for already. -/
def ClosesDrained : Bool → List Request → Prop
  | drained, [] => drained = true
  | _, .send _ _ :: rest => ClosesDrained false rest
  | _, .drain _ _ :: rest => ClosesDrained true rest
  | drained, .close _ :: rest => drained = true ∧ ClosesDrained true rest

/-! ## Workers -/

namespace Worker

variable {kind : TransportKind} {w : Nat} {t t' : Transport} {k k' : Worker} {a : Action}

/-- The worker has written all that its session accepted, and has no message in hand. -/
def IsFinished (k : Worker) : Prop :=
  k.task ∈ [Task.ready, .idle, .ended] ∧ k.written = k.accepted

/-- What has arrived of what a worker did, when nothing was interrupted. -/
def arrivals (w : Nat) (k : Worker) : List Arrival :=
  if k.task = .opening then [] else Arrival.ofSession w k.written

end Worker

namespace System

variable {kind : TransportKind} {s s' : System} {a : Action}

/-- Every worker that is the current one no longer has finished. -/
def IsClean (s : System) : Prop :=
  ∀ w k, s.workers[w]? = some k → s.transport.worker ≠ some w → k.IsFinished

/-- If nothing fails, and the transport is closed only when the queue is empty, then workers that
are replaced have finished. -/
lemma Step.isClean {as : List Action} (hs : Step kind s a s') (hpath : Path kind {} as s)
    (hsucceeds : s.Succeeds a) (hclose : a = .close → s.transport.queue = []) (h : s.IsClean) :
    s'.IsClean := by
  refine hs.forall_workers hpath.ordered
    (P := fun w t k => t.worker ≠ some w → k.IsFinished) ?_ ?_ ?_ h
  · exact fun hne _ hk _ => hk hne
  · intro message _ ht hne
    exact absurd (by simp [ht]) hne
  · intro w k k' hk hstep hfinished hne
    generalize ht' : s'.transport = t' at hstep hne
    cases hstep with
    | accept _ hw | fetch _ hw | fetchNothing _ hw | complete _ hw => exact absurd hw hne
    | opened _ hw => exact absurd (by simpa using hw) hne
    | tellToStop hw =>
      obtain ⟨ht, -, hwritten, -⟩ := hpath.written_of_queue_eq_nil (hclose rfl) hk hw
      exact ⟨by rcases ht with ht | ht <;> simp [Worker.tellToStop, ht], hwritten⟩
    | park hp =>
      obtain ⟨wake, stop, rfl, -⟩ := Worker.park?_eq_some hp
      exact hfinished hne
    | wake hp =>
      obtain ⟨wake, -, -, rfl⟩ := Worker.resume?_eq_some hp
      exact ⟨by simp, (hfinished hne).2⟩
    | stop hp =>
      obtain ⟨stop, -, -, rfl⟩ := Worker.stop?_eq_some hp
      exact ⟨by simp, (hfinished hne).2⟩
    | fail _ ha =>
      obtain ⟨rfl, -⟩ | ⟨rfl, -⟩ := ha
      · exact hsucceeds.elim
      · exact hsucceeds.elim
    | write ht =>
      have hready := (hfinished hne).1
      simp [ht] at hready
    | leaveWaiting | leave => exact ⟨by simp [Worker.turnTo], (hfinished hne).2⟩

/-- What has arrived of what the workers did, in the order in which they were started. -/
def arrivals (s : System) : List Arrival := (s.workers.mapIdx Worker.arrivals).flatten

lemma flatten_mapIdx_set {α β : Type} {f : Nat → α → List β} {l : List α} {w : Nat} {x y : α}
    {more : List β} (hx : l[w]? = some x) (hy : f w y = f w x ++ more)
    (hlast : more = [] ∨ w + 1 = l.length) :
    ((l.set w y).mapIdx f).flatten = (l.mapIdx f).flatten ++ more := by
  obtain ⟨hlt, rfl⟩ := List.getElem?_eq_some_iff.1 hx
  have hlt' : w < (l.mapIdx f).length := by simpa using hlt
  have hsplit : l.mapIdx f = (l.mapIdx f).take w ++ f w l[w] :: (l.mapIdx f).drop (w + 1) := by
    have hself : (l.mapIdx f).set w (l.mapIdx f)[w] = l.mapIdx f := List.set_getElem_self hlt'
    rw [List.getElem_mapIdx, List.set_eq_take_append_cons_drop, if_pos hlt'] at hself
    exact hself.symm
  rw [List.mapIdx_set, List.set_eq_take_append_cons_drop, if_pos hlt', hy]
  conv_rhs => rw [hsplit]
  rcases hlast with rfl | hlast
  · simp
  · have hdrop : (l.mapIdx f).drop (w + 1) = [] := by simp [← hlast]
    simp [hdrop]

/-- What arrives by an action of one worker.  Only the current worker makes anything arrive. -/
lemma Path.arrivals_act {as : List Action} {w : Nat} {k k' : Worker} {t' : Transport}
    (hpath : Path kind {} as s) (hk : s.workers[w]? = some k)
    (hstep : Worker.Step kind w s.transport k a t' k') (hsucceeds : s.Succeeds a)
    (hclean : s.IsClean) :
    k'.arrivals w = k.arrivals w ++ (s.arrival? a).toList ∧
      ((s.arrival? a).toList = [] ∨ s.transport.worker = some w) := by
  have hfinished := hclean w k hk
  cases hstep with
  | accept _ hw | tellToStop hw => exact ⟨(List.append_nil _).symm, Or.inl rfl⟩
  | park hp =>
    obtain ⟨wake, stop, rfl, -⟩ := Worker.park?_eq_some hp
    exact ⟨(List.append_nil _).symm, Or.inl rfl⟩
  | wake hp =>
    obtain ⟨wake, ht, -, rfl⟩ := Worker.resume?_eq_some hp
    exact ⟨by simp [Worker.arrivals, arrival?, ht], Or.inl rfl⟩
  | stop hp =>
    obtain ⟨stop, hwaiting, hstop, rfl⟩ := Worker.stop?_eq_some hp
    -- A worker that is told to end has finished, so nothing is interrupted.
    have hw : s.transport.worker ≠ some w := by
      intro hw
      have hready := (Signal.receive?_eq_some hstop).1
      exact nomatch ((hpath.attends w k hk).notStopped hw).symm.trans hready
    have hidle : k.task = .idle := by
      have htask := (hfinished hw).1
      cases ht : k.task <;> simp_all [Task.isWaiting]
    exact ⟨by simp [Worker.arrivals, arrival?, hk, hidle], Or.inl (by simp [arrival?, hk, hidle])⟩
  | opened ht hw =>
    have hwritten : k.written = [] := by
      obtain ⟨hwritten, hfetched⟩ :=
        (hpath.ordered.follows w k hk).inOrder.of_task (by simp [ht])
      rw [hwritten, ← hfetched]
      exact (hpath.hasBegun w k hk).fetched ht
    refine ⟨?_, Or.inr hw⟩
    simp [Worker.arrivals, Worker.turnTo, ht, hwritten, Arrival.ofSession, arrival?]
  | fail hw ha =>
    obtain ⟨rfl, -⟩ | ⟨rfl, -⟩ := ha
    · exact hsucceeds.elim
    · exact hsucceeds.elim
  | fetch ht hw hq | fetchNothing ht hw hq | complete ht hw =>
    exact ⟨by simp [Worker.arrivals, arrival?, ht], Or.inl rfl⟩
  | write ht =>
    have hw : s.transport.worker = some w := by
      by_contra hw
      have htask := (hfinished hw).1
      simp [ht] at htask
    refine ⟨?_, Or.inr hw⟩
    simp [Worker.arrivals, Worker.turnTo, ht, hk, Arrival.ofSession, arrival?]
  | leaveWaiting ha hw =>
    have htask := (hfinished hw).1
    obtain ⟨-, ht⟩ | ⟨-, message, ht⟩ := ha
    · simp [ht] at htask
    · simp [ht] at htask
  | leave hw ha =>
    obtain ⟨rfl, ht⟩ | ⟨rfl, message, ht⟩ := ha <;>
      exact ⟨by simp [Worker.arrivals, arrival?, ht], Or.inl rfl⟩

/-- What arrives by an action is added at the end. -/
lemma Step.arrivals_eq {as : List Action} (hs : Step kind s a s') (hpath : Path kind {} as s)
    (hsucceeds : s.Succeeds a) (hclean : s.IsClean) :
    s'.arrivals = s.arrivals ++ (s.arrival? a).toList := by
  unfold System.arrivals
  rcases hs.worker_cases hpath.ordered with ⟨w, k, k', hk, hstep, hworkers⟩ |
    ⟨message, rfl, -, -, hworkers⟩ | ⟨rfl, -, -, hworkers⟩ | ⟨ha, -, hworkers⟩
  · obtain ⟨harrivals, hlast⟩ := hpath.arrivals_act hk hstep hsucceeds hclean
    rw [hworkers]
    exact flatten_mapIdx_set hk harrivals (hlast.imp_right (hpath.ordered.last w))
  · rw [hworkers, List.mapIdx_concat]
    simp [Worker.arrivals, arrival?]
  · rw [hworkers]
    exact (List.append_nil _).symm
  · rw [hworkers]
    cases a <;> first | exact (List.append_nil _).symm | cases ha

/-! ### Sessions so far -/

/-- The messages that the current session has accepted. -/
def held (s : System) : List Octets :=
  match s.transport.worker with
  | some w => s.sessions[w]?.getD []
  | none => []

/-- The sessions before the current one. -/
def past (s : System) : List (List Octets) :=
  match s.transport.worker with
  | some w => s.sessions.take w
  | none => s.sessions

lemma held_of_worker {w : Nat} (hw : s.transport.worker = some w) :
    s.held = s.sessions[w]?.getD [] := by
  rw [held, hw]

lemma past_of_worker {w : Nat} (hw : s.transport.worker = some w) :
    s.past = s.sessions.take w := by
  rw [past, hw]

lemma held_of_none (hw : s.transport.worker = none) : s.held = [] := by
  rw [held, hw]

lemma past_of_none (hw : s.transport.worker = none) : s.past = s.sessions := by
  rw [past, hw]

/-- The current session is the last one, and has a message. -/
lemma Path.sessions_eq {as : List Action} (hpath : Path kind {} as s) :
    s.sessions = s.past ++ nonempty [s.held] := by
  cases hw : s.transport.worker with
  | none => simp [held_of_none hw, past_of_none hw]
  | some w =>
    obtain ⟨k, hk⟩ := hpath.ordered.exists_current hw
    have hsession := getElem?_sessions hk
    have hlast : w + 1 = s.sessions.length := (hpath.ordered.last w hw).trans s.length_sessions.symm
    have hdrop : s.sessions.drop w = [k.accepted] := by
      obtain ⟨hlt, hget⟩ := List.getElem?_eq_some_iff.1 hsession
      rw [List.drop_eq_getElem_cons hlt, hget, List.drop_eq_nil_of_le (by omega)]
    rw [held_of_worker hw, past_of_worker hw, hsession, Option.getD_some,
      nonempty_cons (hpath.hasBegun w k hk).accepted, nonempty_nil, ← hdrop,
      List.take_append_drop]

/-- As long as nothing is sent or discarded, the sessions stay as they are. -/
lemma Step.sessions_stay (hs : Step kind s a s') (ho : s.Ordered) (hsent : a.sent? = none)
    (hkeeps : ¬ a.Discards s.transport) : s'.held = s.held ∧ s'.past = s.past := by
  have hsessions : s'.sessions = s.sessions := hs.sessions_of_not_sent hsent
  have hworker : s'.transport.worker = s.transport.worker := by
    cases hw : s.transport.worker with
    | some w =>
      obtain ⟨k, hk⟩ := ho.exists_current hw
      obtain ⟨k', -, hcurrent, -⟩ := hs.session_of_worker ho hk
      obtain ⟨-, ⟨hw', -⟩ | ⟨-, hdiscards, -⟩⟩ := hcurrent hw
      · exact hw'
      · exact absurd hdiscards hkeeps
    | none =>
      cases hw' : s'.transport.worker with
      | none => rfl
      | some w =>
        rcases hs.worker_eq hw' with hsome | ⟨-, -, message, rfl⟩
        · rw [hw] at hsome
          cases hsome
        · cases hsent
  unfold held past
  rw [hsessions, hworker]
  exact ⟨rfl, rfl⟩

/-- A message that is sent joins the current session, which may begin with it. -/
lemma Step.sessions_send {message : Octets} (hs : Step kind s (.send message) s')
    (ho : s.Ordered) : s'.held = s.held ++ [message] ∧ s'.past = s.past := by
  have hsessions := hs.sessions_eq
  have hworker : s'.transport.worker = some (s.transport.worker.getD s.transport.started) := by
    obtain ⟨w, hw, rfl⟩ | ⟨hw, rfl⟩ := hs.of_send
    · simp [hw]
    · simp [hw]
  cases hw : s.transport.worker with
  | some w =>
    rw [hw] at hsessions hworker
    obtain ⟨k, hk⟩ := ho.exists_current hw
    have hmodify : s'.sessions = s.sessions.modify w (· ++ [message]) := hsessions
    rw [held_of_worker hworker, held_of_worker hw, past_of_worker hworker, past_of_worker hw,
      Option.getD_some, hmodify]
    refine ⟨by simp [getElem?_sessions hk], List.ext_getElem? fun i => ?_⟩
    rw [List.getElem?_take, List.getElem?_take]
    split
    case isTrue hlt => simp [Nat.ne_of_gt hlt]
    case isFalse => rfl
  | none =>
    rw [hw] at hsessions hworker
    have hlength : s.transport.started = s.sessions.length :=
      ho.started.trans s.length_sessions.symm
    have hbegin : s'.sessions = s.sessions ++ [[message]] := hsessions
    rw [held_of_worker hworker, held_of_none hw, past_of_worker hworker, past_of_none hw,
      Option.getD_none, hbegin, hlength, List.getElem?_concat_length]
    exact ⟨rfl, List.take_left⟩

/-- The current session is over when the transport is closed. -/
lemma Step.sessions_close {as : List Action} (hs : Step kind s .close s')
    (hpath : Path kind {} as s) : s'.held = [] ∧ s'.past = s.past ++ nonempty [s.held] := by
  have hsessions : s'.sessions = s.sessions := hs.sessions_eq
  have hworker : s'.transport.worker = none := by
    rw [hs.transport_of_close]
    rfl
  rw [← hpath.sessions_eq, ← hsessions]
  exact ⟨held_of_none hworker, past_of_none hworker⟩

/-- As long as nothing is sent, a queue without messages stays so. -/
lemma Step.queue_eq_nil (hs : Step kind s a s') (hsent : a.sent? = none)
    (hq : s.transport.queue = []) : s'.transport.queue = [] := by
  cases hs with
  | queue | start => cases hsent
  | close | closeAgain | openFailed | writeFailed => rfl
  | opened => simpa [update] using hq
  | complete => simp [Transport.endWrite, hq]
  | await | check | giveUp | notice | park | wake | stop | fetch | fetchNothing | write
  | leaveWaiting | leave => exact hq

lemma queue_eq_nil_of_isBusy {t : Transport} (h : t.isBusy = false) : t.queue = [] := by
  by_contra hq
  exact nomatch h.symm.trans (isBusy_of_queue hq)

/-- What workers do makes nobody return from a wait. -/
lemma Step.wait_of_isWork {i : Nat} {d : Wait} (hs : Step kind s a s') (ha : a.isWork = true)
    (hd : s.waits[i]? = some d) (hphase : ∀ b, d.phase ≠ .returned b) :
    ∃ d', s'.waits[i]? = some d' ∧ ∀ b, d'.phase ≠ .returned b := by
  cases hs with
  | queue | start | close | closeAgain | await | check | giveUp => cases ha
  | notice =>
    refine ⟨_, by rw [System.notice, List.getElem?_map, hd, Option.map_some], ?_⟩
    intro b
    split
    · intro hb
      cases hb
    · exact hphase b
  | park | wake | stop | opened | openFailed | fetch | fetchNothing | write | writeFailed | complete
  | leaveWaiting | leave => exact ⟨d, hd, hphase⟩

end System

/-! ## One transport and its thread -/

namespace View

variable {kind : TransportKind} {v v' : View} {a : Option Action}

/-- The sessions so far, and those that the remaining requests bring. -/
def deliveries (v : View) : List (List Octets) :=
  v.outlet.system.past ++ nonempty (stretches v.outlet.system.held v.requests)

/-- The thread has begun to wait until the transport is idle, and has not returned from it. -/
def IsWaiting (kind : TransportKind) (v : View) : Prop :=
  ∃ i d, v.standing = .draining kind i ∧ v.outlet.system.waits[i]? = some d ∧
    ∀ b, d.phase ≠ .returned b

/-- Nothing was lost so far, nor will it be: the transport is closed only when it is idle, workers
that are replaced have finished, and what has arrived is what the workers have written. -/
structure Delivers (kind : TransportKind) (v : View) : Prop where
  founded : v.IsFounded kind
  clean : v.outlet.system.IsClean
  arrivals : v.outlet.arrivals = v.outlet.system.arrivals
  drained : ∃ drained, ClosesDrained drained v.requests ∧
    (drained = true → v.IsWaiting kind ∨ v.outlet.system.transport.queue = [])

lemma delivers_start {requests : List Request} (h : ClosesDrained true requests) :
    Delivers kind ⟨{}, requests, .free⟩ where
  founded := isFounded_start kind requests
  clean := nofun
  arrivals := rfl
  drained := ⟨true, h, fun _ => Or.inr rfl⟩

/-- What a worker does that does not fail, or a thread while it waits, sends nothing and discards
nothing. -/
lemma Allows.keeps {a : Action} (ha : v.Allows kind a) (hsucceeds : v.outlet.system.Succeeds a) :
    a.sent? = none ∧ ¬ a.Discards v.outlet.system.transport := by
  obtain ha | ⟨i, -, rfl | rfl⟩ := ha
  · cases a with
    | send | close | await | check | giveUp => cases ha
    | openFailed | writeFailed => exact hsucceeds.elim
    | notice | park | wake | stop | opened | fetch | write | complete => exact ⟨rfl, id⟩
  · exact ⟨rfl, id⟩
  · exact ⟨rfl, id⟩

/-- A thread that is free does not wait. -/
lemma not_isWaiting_of_free (h : v.standing = .free) : ¬ v.IsWaiting kind := by
  rintro ⟨i, d, hstanding, -⟩
  exact nomatch h.symm.trans hstanding

/-- After an action that is possible, the outlet has what has arrived by it. -/
lemma Delivers.after {a : Action} {s' : System} (h : v.Delivers kind)
    (hs : System.Step kind v.outlet.system a s') (hsucceeds : v.outlet.system.Succeeds a)
    (hclose : a = .close → v.outlet.system.transport.queue = []) :
    s'.IsClean ∧ (v.outlet.after a s').arrivals = s'.arrivals := by
  obtain ⟨as, hpath⟩ := h.founded.reachable
  refine ⟨hs.isClean hpath hsucceeds hclose h.clean, ?_⟩
  rw [hs.arrivals_eq hpath hsucceeds h.clean, ← h.arrivals]
  rfl

/-- When the next request closes the transport, there is nothing in its queue. -/
lemma Delivers.queue_eq_nil {r : Request} {requests : List Request} (h : v.Delivers kind)
    (hfree : v.standing = .free) (hr : v.requests = r :: requests) (hclose : r.action = .close) :
    v.outlet.system.transport.queue = [] := by
  obtain ⟨drained, hcloses, hidle⟩ := h.drained
  rw [hr] at hcloses
  cases r with
  | close kind => exact (hidle hcloses.1).resolve_left (not_isWaiting_of_free hfree)
  | send | drain => cases hclose

/-- Whether the queue is without messages when the next requests close the transport. -/
lemma Delivers.drained_begin {r : Request} {requests : List Request} {s' : System}
    (h : v.Delivers kind) (hfree : v.standing = .free) (hr : v.requests = r :: requests)
    (hkind : r.kind = kind) (hs : System.Step kind v.outlet.system r.action s') :
    ∃ drained, ClosesDrained drained requests ∧ (drained = true →
      IsWaiting kind ⟨v.outlet.after r.action s', requests, r.standing v.outlet.system⟩ ∨
        s'.transport.queue = []) := by
  obtain ⟨drained, hcloses, hidle⟩ := h.drained
  rw [hr] at hcloses
  cases r with
  | send => exact ⟨false, hcloses, nofun⟩
  | drain kind' limit =>
    obtain rfl : kind' = kind := hkind
    refine ⟨true, hcloses, fun _ => Or.inl ?_⟩
    obtain rfl := System.Step.of_await hs
    exact ⟨_, _, rfl, List.getElem?_concat_length, nofun⟩
  | close =>
    refine ⟨true, hcloses.2, fun _ => Or.inr ?_⟩
    exact hs.queue_eq_nil rfl (h.queue_eq_nil hfree hr rfl)

/-- A thread goes on to wait as long as the transport is busy. -/
lemma Allows.drained {a : Action} {s' : System} (ha : v.Allows kind a)
    (hs : System.Step kind v.outlet.system a s') (hsucceeds : v.outlet.system.Succeeds a) :
    v.IsWaiting kind ∨ v.outlet.system.transport.queue = [] →
      IsWaiting kind { v with outlet := v.outlet.after a s' } ∨ s'.transport.queue = [] := by
  have hsent := (ha.keeps hsucceeds).1
  rintro (⟨i, d, hstanding, hd, hphase⟩ | hq)
  · obtain ha | ⟨i', hstanding', ha⟩ := ha
    · obtain ⟨d', hd', hphase'⟩ := hs.wait_of_isWork ha hd hphase
      exact Or.inl ⟨i, d', hstanding, hd', hphase'⟩
    · obtain ⟨-, rfl⟩ := Standing.draining.inj (hstanding.symm.trans hstanding')
      cases hbusy : v.outlet.system.transport.isBusy with
      | false => exact Or.inr (hs.queue_eq_nil hsent (System.queue_eq_nil_of_isBusy hbusy))
      | true =>
        -- Only looking again is possible, and there is still something to wait for.
        obtain rfl | rfl := ha
        · obtain ⟨-, -, -, rfl⟩ := hs.of_check
          refine Or.inl ⟨i, _, hstanding, System.getElem?_setWait hd, ?_⟩
          simp [hbusy]
        · exact nomatch hbusy.symm.trans hsucceeds
  · exact Or.inr (hs.queue_eq_nil hsent hq)

lemma Step.delivers (hs : Step kind v a v') (hsucceeds : v.Succeeds a) (h : v.Delivers kind) :
    v'.Delivers kind := by
  have hfounded := hs.isFounded h.founded
  cases hs with
  | @begin r requests s' hfree hr hkind hs =>
    obtain ⟨hclean, harrivals⟩ :=
      h.after hs (hsucceeds _ rfl) fun hclose => h.queue_eq_nil hfree hr hclose
    exact ⟨hfounded, hclean, harrivals, h.drained_begin hfree hr hkind hs⟩
  | @act a s' ha hs =>
    have hclose : a = .close → v.outlet.system.transport.queue = [] := by
      rintro rfl
      obtain ha | ⟨i, -, ha | ha⟩ := ha <;> cases ha
    obtain ⟨hclean, harrivals⟩ := h.after hs (hsucceeds _ rfl) hclose
    obtain ⟨drained, hcloses, hidle⟩ := h.drained
    refine ⟨hfounded, hclean, harrivals, drained, hcloses, ?_⟩
    exact fun hd => ha.drained hs (hsucceeds _ rfl) (hidle hd)
  | resume hover =>
    obtain ⟨drained, hcloses, hidle⟩ := h.drained
    refine ⟨hfounded, h.clean, h.arrivals, drained, hcloses, fun hd => Or.inr ?_⟩
    refine (hidle hd).resolve_left ?_
    rintro ⟨i, d, hstanding, hd, hphase⟩
    obtain ⟨i', d', b, hstanding', hd', hb⟩ | ⟨w, k, hstanding', -⟩ := hover
    · obtain ⟨-, rfl⟩ := Standing.draining.inj (hstanding.symm.trans hstanding')
      obtain rfl := Option.some.inj (hd.symm.trans hd')
      exact hphase b hb
    · exact nomatch hstanding.symm.trans hstanding'

/-- No step changes what the sessions will be. -/
lemma Step.deliveries_eq (hs : Step kind v a v') (hsucceeds : v.Succeeds a)
    (h : v.IsFounded kind) : v'.deliveries = v.deliveries := by
  obtain ⟨as, hpath⟩ := h.reachable
  unfold deliveries
  cases hs with
  | @begin r requests s' hfree hr hkind hs =>
    rw [hr]
    cases r with
    | send =>
      obtain ⟨hheld, hpast⟩ := hs.sessions_send hpath.ordered
      simp only [Outlet.after, hheld, hpast, stretches]
    | drain =>
      obtain ⟨hheld, hpast⟩ := hs.sessions_stay hpath.ordered rfl id
      simp only [Outlet.after, hheld, hpast, stretches]
    | close =>
      obtain ⟨hheld, hpast⟩ := hs.sessions_close hpath
      simp only [Outlet.after, hheld, hpast, stretches, List.append_assoc, ← nonempty_append,
        List.singleton_append]
  | act ha hs =>
    obtain ⟨hsent, hkeeps⟩ := ha.keeps (hsucceeds _ rfl)
    obtain ⟨hheld, hpast⟩ := hs.sessions_stay hpath.ordered hsent hkeeps
    simp only [Outlet.after, hheld, hpast]
  | resume => rfl

lemma deliveries_start (requests : List Request) :
    (⟨{}, requests, .free⟩ : View).deliveries = nonempty (stretches [] requests) := rfl

/-- When there is nothing left to do, what has arrived is what the sessions were to be. -/
lemma Delivers.arrivals_eq (h : v.Delivers kind) (hr : v.requests = [])
    (hfree : v.standing = .free) : v.outlet.arrivals = Arrival.log v.deliveries := by
  obtain ⟨as, hpath⟩ := h.founded.reachable
  have hq : v.outlet.system.transport.queue = [] := by
    obtain ⟨drained, hcloses, hidle⟩ := h.drained
    rw [hr] at hcloses
    exact (hidle hcloses).resolve_left (not_isWaiting_of_free hfree)
  have hsessions : v.deliveries = v.outlet.system.sessions := by
    rw [hpath.sessions_eq, deliveries, hr, stretches]
  rw [hsessions, h.arrivals, System.arrivals, Arrival.log, System.sessions]
  congr 1
  refine List.ext_getElem? fun w => ?_
  rw [List.getElem?_mapIdx, List.getElem?_mapIdx, List.getElem?_map]
  cases hk : v.outlet.system.workers[w]? with
  | none => rfl
  | some k =>
    have hwritten : k.task ≠ .opening ∧ k.written = k.accepted := by
      by_cases hw : v.outlet.system.transport.worker = some w
      · obtain ⟨ht, -, hwritten, -⟩ := hpath.written_of_queue_eq_nil hq hk hw
        exact ⟨by rcases ht with ht | ht <;> simp [ht], hwritten⟩
      · obtain ⟨ht, hwritten⟩ := h.clean w k hk hw
        exact ⟨by rintro hopening; simp [hopening] at ht, hwritten⟩
    simp [Worker.arrivals, hwritten.1, hwritten.2]

end View

/-! ## Runs -/

namespace Caller

variable {c : Caller} {requests : List Request} {es : List Event}

/-- If no transport is closed before it is idle, and nothing fails, then what has arrived in the end
is exactly what was sent: a connection for every piece of the requests with a message in it, and its
messages, in order. -/
theorem Run.arrivals_eq (h : Run Succeeds { requests } es c) {kind : TransportKind}
    (hdrained : ClosesDrained true (requestsTo kind requests)) (hdone : c.IsDone) :
    (c.outlet kind).arrivals =
      Arrival.log (nonempty (stretches [] (requestsTo kind requests))) := by
  have hview : (c.view kind).Delivers kind ∧
      (c.view kind).deliveries = nonempty (stretches [] (requestsTo kind requests)) := by
    refine h.view_induction kind (motive := fun v => v.Delivers kind ∧
      v.deliveries = nonempty (stretches [] (requestsTo kind requests))) ?_ ?_
    · intro v a v' hstep hsucceeds hv
      have ha := hsucceeds fun _ _ => id
      exact ⟨hstep.delivers ha hv.1, (hstep.deliveries_eq ha hv.1.founded).trans hv.2⟩
    · rw [view_start]
      exact ⟨View.delivers_start hdrained, View.deliveries_start _⟩
  rw [← hview.2]
  refine hview.1.arrivals_eq ?_ ?_
  · simp [view, hdone.1]
  · simp [view, hdone.2]

end Caller

end OscRemote
