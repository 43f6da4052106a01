import OscRemote.Proofs.Client.Caller
import OscRemote.Proofs.Transport.Close

/-!
# Transports at rest

When a thread has closed a transport, and has waited for its worker, the transport is at rest:
nothing is queued, no worker runs, and those that were started before have all ended
(`System.IsAtRest`).  Two things carry this through a run.  A worker that has not ended is the
current one, or the one for which the thread stands still (`View.Joins`); and after the last of the
requests that were begun was to close, nothing but a message changes the shared state.

A transport at rest stays so, whatever workers and waiting callers do, until something is sent.
-/

namespace OscRemote

/-- A transport that was closed, all of whose workers have ended. -/
structure System.IsAtRest (s : System) : Prop where
  isClosed : s.transport.IsClosed
  ended : ∀ (w : Nat) (k : Worker), s.workers[w]? = some k → k.task = .ended

/-- Nothing was changed on a transport, and nothing has arrived. -/
structure Outlet.Stays (o o' : Outlet) : Prop where
  transport : o'.system.transport = o.system.transport
  workers : o'.system.workers = o.system.workers
  arrivals : o'.arrivals = o.arrivals

namespace Worker

variable {kind : TransportKind} {w : Nat} {t t' : Transport} {k k' : Worker} {a : Action}

/-- Nothing more happens to a worker that has ended, unless it is the current one. -/
lemma Step.current_of_ended (hs : Step kind w t k a t' k') (hended : k.task = .ended) :
    t.worker = some w := by
  cases hs with
  | accept message hw | tellToStop hw | opened ht hw | fail hw ha | fetch ht hw hq
  | fetchNothing ht hw hq | complete ht hw => exact hw
  | park hp =>
    obtain ⟨wake, stop, -, -, ⟨ht, -⟩ | ⟨ht, -⟩⟩ := park?_eq_some hp
    · cases ht.symm.trans hended
    · rw [hended] at ht
      cases ht
  | wake hp =>
    obtain ⟨wake, ht, -, -⟩ := resume?_eq_some hp
    cases ht.symm.trans hended
  | stop hp =>
    obtain ⟨stop, ht, -, -⟩ := stop?_eq_some hp
    rw [hended] at ht
    cases ht
  | write ht => cases ht.symm.trans hended
  | leaveWaiting ha =>
    obtain ⟨-, ht⟩ | ⟨-, message, ht⟩ := ha <;> cases ht.symm.trans hended
  | leave hw ha =>
    obtain ⟨-, ht⟩ | ⟨-, message, ht⟩ := ha <;> cases ht.symm.trans hended

/-- The current worker stays so until it ends or the transport is closed. -/
lemma Step.current_or_ended (hs : Step kind w t k a t' k') (hw : t.worker = some w) :
    t'.worker = some w ∨ k'.task = .ended ∨ a = .close := by
  cases hs with
  | accept | park | wake | fetch | fetchNothing | write | complete => exact Or.inl hw
  | tellToStop => exact Or.inr (Or.inr rfl)
  | stop hp =>
    obtain ⟨stop, -, -, rfl⟩ := stop?_eq_some hp
    exact Or.inr (Or.inl rfl)
  | opened => exact Or.inl (by simpa using hw)
  | fail | leaveWaiting | leave => exact Or.inr (Or.inl rfl)

end Worker

namespace System

variable {kind : TransportKind} {s s' : System} {a : Action}

/-- Where a transport is at rest, only something that is sent changes anything or makes anything
arrive. -/
lemma Step.of_isAtRest (hs : Step kind s a s') (ho : s.Ordered) (h : s.IsAtRest)
    (hsent : a.sent? = none) :
    s'.transport = s.transport ∧ s'.workers = s.workers ∧ s.arrival? a = none := by
  refine ⟨hs.transport_eq_of_isClosed h.isClosed hsent, ?_⟩
  rcases hs.worker_cases ho with ⟨w, k, k', hk, hstep, -⟩ | ⟨message, rfl, -⟩ |
    ⟨rfl, -, -, hworkers⟩ | ⟨ha, -, hworkers⟩
  · have hw := hstep.current_of_ended (h.ended w k hk)
    cases h.isClosed.worker.symm.trans hw
  · cases hsent
  · exact ⟨hworkers, rfl⟩
  · refine ⟨hworkers, ?_⟩
    cases a <;> first | rfl | cases ha

end System

/-! ## One transport and its thread -/

/-- What closing, waiting and workers do is nothing that is sent. -/
lemma Action.sent?_of_isWork {a : Action} (ha : a.isWork = true) : a.sent? = none := by
  cases a <;> first | rfl | cases ha

namespace View

variable {kind : TransportKind} {v v' : View} {a : Option Action}

lemma Allows.sent?_eq_none {a : Action} (ha : v.Allows kind a) : a.sent? = none := by
  obtain ha | ⟨i, -, rfl | rfl⟩ := ha
  · exact Action.sent?_of_isWork ha
  · rfl
  · rfl

/-- Of the workers only the current one has not ended, and the one for which the thread stands
still. -/
def Joins (kind : TransportKind) (v : View) : Prop :=
  ∀ w k, v.outlet.system.workers[w]? = some k →
    v.outlet.system.transport.worker = some w ∨ k.task = .ended ∨ v.standing = .joining kind w

/-- What an action of the transport makes of its workers.  If it closes the transport, the thread
has to stand still for the current worker. -/
lemma joins_step {s s' : System} {a : Action} {standing : Standing} (hs : System.Step kind s a s')
    (ho : s.Ordered)
    (hclose : ∀ w, a = .close → s.transport.worker = some w → standing = .joining kind w)
    (h : ∀ w k, s.workers[w]? = some k →
      s.transport.worker = some w ∨ k.task = .ended ∨ standing = .joining kind w) :
    ∀ w k, s'.workers[w]? = some k →
      s'.transport.worker = some w ∨ k.task = .ended ∨ standing = .joining kind w := by
  refine hs.forall_workers ho (P := fun w t k =>
    t.worker = some w ∨ k.task = .ended ∨ standing = .joining kind w) ?_ ?_ ?_ h
  · exact fun hne _ hP => Or.inr (hP.resolve_left hne)
  · intro message _ ht
    exact Or.inl (by simp [ht])
  · intro w k k' _ hstep hP
    have hcurrent (hw : s.transport.worker = some w) :
        s'.transport.worker = some w ∨ k'.task = .ended ∨ standing = .joining kind w := by
      obtain hw' | hended | ha := hstep.current_or_ended hw
      · exact Or.inl hw'
      · exact Or.inr (Or.inl hended)
      · exact Or.inr (Or.inr (hclose w ha hw))
    obtain hw | hended | hstanding := hP
    · exact hcurrent hw
    · exact hcurrent (hstep.current_of_ended hended)
    · exact Or.inr (Or.inr hstanding)

lemma Step.joins (hs : Step kind v a v') (hf : v.IsFounded kind) (h : v.Joins kind) :
    v'.Joins kind := by
  obtain ⟨as, hpath⟩ := hf.reachable
  cases hs with
  | @begin r requests s' hfree hr hkind hs =>
    refine joins_step hs hpath.ordered ?_ ?_
    · intro w ha hw
      cases r with
      | send | drain => cases ha
      | close kind' =>
        obtain rfl : kind' = kind := hkind
        simp [Request.standing, hw]
    · intro w k hk
      obtain hw | hended | hstanding := h w k hk
      · exact Or.inl hw
      · exact Or.inr (Or.inl hended)
      · cases hfree.symm.trans hstanding
  | act ha hs =>
    refine joins_step hs hpath.ordered ?_ h
    rintro w rfl -
    obtain ha | ⟨i, -, ha | ha⟩ := ha <;> cases ha
  | resume hover =>
    intro w k hk
    obtain hw | hended | hstanding := h w k hk
    · exact Or.inl hw
    · exact Or.inr (Or.inl hended)
    · obtain ⟨i, d, b, hstanding', -⟩ | ⟨w', k', hstanding', hk', hended⟩ := hover
      · cases hstanding.symm.trans hstanding'
      · obtain ⟨-, rfl⟩ := Standing.joining.inj (hstanding.symm.trans hstanding')
        obtain rfl := Option.some.inj (hk.symm.trans hk')
        exact Or.inr (Or.inl hended)

/-- Of these requests some were begun, and if the last of them was to close, the transport is
closed. -/
def Closes (kind : TransportKind) (all : List Request) (v : View) : Prop :=
  ∃ begun, all = begun ++ v.requests ∧
    (begun.getLast? = some (.close kind) → v.outlet.system.transport.IsClosed)

lemma Step.closes {all : List Request} (hs : Step kind v a v') (h : v.Closes kind all) :
    v'.Closes kind all := by
  obtain ⟨begun, rfl, hclosed⟩ := h
  cases hs with
  | @begin r requests s' hfree hr hkind hs =>
    refine ⟨begun ++ [r], by rw [hr, List.append_assoc, List.singleton_append], ?_⟩
    rw [List.getLast?_concat]
    intro hlast
    obtain rfl := Option.some.inj hlast
    exact System.Step.isClosed_of_close hs
  | act ha hs =>
    refine ⟨begun, rfl, fun hlast => ?_⟩
    have heq := hs.transport_eq_of_isClosed (hclosed hlast) ha.sent?_eq_none
    simpa [Outlet.after, heq] using hclosed hlast
  | resume => exact ⟨begun, rfl, hclosed⟩

/-- Of requests without a message and those behind them some were begun, and unless it was one of
those behind, the transport is as it was. -/
def StaysFor (o : Outlet) (asks rest : List Request) (v : View) : Prop :=
  (∃ begun, asks ++ rest = begun ++ v.requests) ∧
    (rest.length ≤ v.requests.length → o.Stays v.outlet)

/-- A transport at rest that sends nothing by an action stays as it is. -/
lemma stays_after {o o' : Outlet} {a : Action} {s' : System} (hrest : o.system.IsAtRest)
    (h : o.Stays o') (ho : o'.system.Ordered) (hs : System.Step kind o'.system a s')
    (hsent : a.sent? = none) : o.Stays (o'.after a s') := by
  have hrest' : o'.system.IsAtRest := ⟨h.transport ▸ hrest.isClosed, h.workers ▸ hrest.ended⟩
  obtain ⟨htransport, hworkers, harrival⟩ := hs.of_isAtRest ho hrest' hsent
  refine ⟨htransport.trans h.transport, hworkers.trans h.workers, ?_⟩
  rw [Outlet.after, harrival, Option.toList_none, List.append_nil]
  exact h.arrivals

lemma Step.staysFor {o : Outlet} {asks rest : List Request} (hs : Step kind v a v')
    (hf : v.IsFounded kind) (hrest : o.system.IsAtRest)
    (hasks : ∀ r ∈ asks, r.action.sent? = none) (h : v.StaysFor o asks rest) :
    v'.StaysFor o asks rest := by
  obtain ⟨as, hpath⟩ := hf.reachable
  obtain ⟨⟨begun, hall⟩, hstays⟩ := h
  cases hs with
  | @begin r requests s' hfree hr hkind hs =>
    rw [hr] at hall hstays
    refine ⟨⟨begun ++ [r], by rw [hall, List.append_assoc, List.singleton_append]⟩, ?_⟩
    intro hlength
    have hr' : (asks ++ rest)[begun.length]? = some r := by
      rw [hall, List.getElem?_append_right (Nat.le_refl _), Nat.sub_self, List.getElem?_cons_zero]
    have hlt : begun.length < asks.length := by
      have := congrArg List.length hall
      simp only [List.length_append, List.length_cons] at this hlength
      omega
    rw [List.getElem?_append_left hlt] at hr'
    refine stays_after hrest (hstays ?_) hpath.ordered hs (hasks r (List.mem_of_getElem? hr'))
    rw [List.length_cons]
    exact Nat.le_succ_of_le hlength
  | act ha hs =>
    refine ⟨⟨begun, hall⟩, fun hlength => ?_⟩
    exact stays_after hrest (hstays hlength) hpath.ordered hs ha.sent?_eq_none
  | resume => exact ⟨⟨begun, hall⟩, hstays⟩

end View

/-! ## Runs -/

namespace Caller

variable {c c' : Caller} {kind : TransportKind} {es : List Event}
  {allowed : Caller → Event → Prop}

/-- When a thread is free and the last request for a transport that it has carried out was to close
it, the transport is at rest, whatever happened before. -/
theorem Run.isAtRest {before rest : List Request}
    (h : Run allowed { requests := before ++ rest } es c) (hr : c.requests = rest)
    (hfree : c.standing = .free)
    (hclose : (requestsTo kind before).getLast? = some (.close kind)) :
    (c.outlet kind).system.IsAtRest := by
  have hview : (c.view kind).IsFounded kind ∧ (c.view kind).Joins kind ∧
      (c.view kind).Closes kind (requestsTo kind (before ++ rest)) := by
    refine h.view_induction kind (motive := fun v => v.IsFounded kind ∧ v.Joins kind ∧
      v.Closes kind (requestsTo kind (before ++ rest))) ?_ ?_
    · rintro v a v' hs - ⟨hfounded, hjoins, hcloses⟩
      exact ⟨hs.isFounded hfounded, hs.joins hfounded hjoins, hs.closes hcloses⟩
    · rw [view_start]
      exact ⟨View.isFounded_start kind _, nofun, [], rfl, nofun⟩
  obtain ⟨-, hjoins, begun, hbegun, hclosed⟩ := hview
  rw [requestsTo_append, view, hr] at hbegun
  obtain rfl := List.append_cancel_right hbegun
  refine ⟨hclosed hclose, fun w k hk => ?_⟩
  obtain hw | hended | hstanding := hjoins w k hk
  · cases (hclosed hclose).worker.symm.trans hw
  · exact hended
  · rw [view, hfree] at hstanding
    cases hstanding

/-- As long as nothing is sent, a transport at rest stays as it is. -/
theorem Run.stays {asks rest : List Request} (h : Run allowed c es c')
    (hf : ∀ kind, (c.view kind).IsFounded kind) (hrest : (c.outlet kind).system.IsAtRest)
    (hc : c.requests = asks ++ rest) (hasks : ∀ r ∈ asks, r.action.sent? = none)
    (hc' : c'.requests = rest) : (c.outlet kind).Stays (c'.outlet kind) := by
  have hasks' : ∀ r ∈ requestsTo kind asks, r.action.sent? = none :=
    fun r hr => hasks r (List.mem_of_mem_filter hr)
  have hview : (c'.view kind).IsFounded kind ∧
      (c'.view kind).StaysFor (c.outlet kind) (requestsTo kind asks) (requestsTo kind rest) := by
    refine h.view_induction kind (motive := fun v => v.IsFounded kind ∧
      v.StaysFor (c.outlet kind) (requestsTo kind asks) (requestsTo kind rest)) ?_ ?_
    · rintro v a v' hs - ⟨hfounded, hstays⟩
      exact ⟨hs.isFounded hfounded, hs.staysFor hfounded hrest hasks' hstays⟩
    · refine ⟨hf kind, ⟨[], ?_⟩, fun _ => ⟨rfl, rfl, rfl⟩⟩
      rw [view, hc, requestsTo_append, List.nil_append]
  refine hview.2.2 (Nat.le_of_eq ?_)
  rw [view, hc']

lemma proceed?_of_free {r : Request} {requests : List Request} (hfree : c.standing = .free)
    (hr : c.requests = r :: requests) : c.proceed? = ({ c with requests } : Caller).begin? r := by
  simp only [proceed?, hfree, hr]

/-- A thread that is free sends a packet without waiting. -/
lemma perform?_of_send {packet : Octets} {rest : List Request} (hfree : c.standing = .free)
    (hc : c.requests = .send kind packet :: rest) :
    c.perform? .proceed = some { c.setOutlet kind ((c.outlet kind).after (.send packet)
      ((c.outlet kind).system.send kind packet)) with requests := rest, standing := .free } := by
  have hact : ({ c with requests := rest } : Caller).act? kind (.send packet) =
      some (({ c with requests := rest } : Caller).setOutlet kind ((c.outlet kind).after
        (.send packet) ((c.outlet kind).system.send kind packet))) :=
    act?_eq_some_iff.2 ⟨_, by simpa using System.step_send kind (c.outlet kind).system packet,
      by simp⟩
  rw [perform?, proceed?_of_free hfree hc]
  refine (congrArg (Option.map _) hact).trans ?_
  cases kind <;> rfl

/-- A message that is sent to a transport at rest begins a session. -/
theorem exists_begins_session {message : Octets} {rest : List Request}
    (hrest : (c.outlet kind).system.IsAtRest) (hc : c.requests = .send kind message :: rest)
    (hfree : c.standing = .free) :
    ∃ c', c.perform? .proceed = some c' ∧ c'.requests = rest ∧ c'.standing = .free ∧
      (c'.outlet kind).system.sessions = (c.outlet kind).system.sessions ++ [[message]] ∧
      (c'.outlet kind).system.transport.isRunning = true := by
  have hs := System.step_send kind (c.outlet kind).system message
  have hsessions := hs.sessions_eq
  rw [hrest.isClosed.worker] at hsessions
  refine ⟨_, perform?_of_send hfree hc, rfl, rfl, ?_, ?_⟩
  · rw [outlet_with, outlet_setOutlet]
    exact hsessions
  · rw [outlet_with, outlet_setOutlet, Outlet.after, System.transport_send]
    exact Transport.isRunning_send _ kind message

end Caller

end OscRemote
