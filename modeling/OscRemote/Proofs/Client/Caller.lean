import OscRemote.Client.Caller
import OscRemote.Proofs.Transport.Drain

/-!
# A thread as one transport sees it

A thread uses two transports in turn, and each of them sees only what concerns it: the requests for
it, in order, and whether the thread stands still because of it.  `Caller.view` is what one
transport sees, and `View.Step` says what can happen there: the thread begins to carry out a
request, something acts on the transport, or the thread has waited long enough.

By `Caller.exists_step` an event is a step for one of the two transports, and for the other nothing
happens.  So what is to hold of a thread with two transports is proved of one transport at a time.
-/

namespace OscRemote

/-- The requests for one transport, in order. -/
def requestsTo (kind : TransportKind) (requests : List Request) : List Request :=
  requests.filter (·.kind = kind)

@[simp] lemma requestsTo_nil (kind : TransportKind) : requestsTo kind [] = [] := rfl

@[simp] lemma requestsTo_append (kind : TransportKind) (first second : List Request) :
    requestsTo kind (first ++ second) = requestsTo kind first ++ requestsTo kind second :=
  List.filter_append ..

lemma requestsTo_cons_self (r : Request) (requests : List Request) :
    requestsTo r.kind (r :: requests) = r :: requestsTo r.kind requests := by
  simp [requestsTo]

lemma requestsTo_cons_of_ne {kind : TransportKind} {r : Request} (h : r.kind ≠ kind)
    (requests : List Request) : requestsTo kind (r :: requests) = requestsTo kind requests := by
  simp [requestsTo, h]

/-- The transport because of which a thread stands still. -/
def Standing.kind? : Standing → Option TransportKind
  | .free => none
  | .draining kind _ | .joining kind _ => some kind

/-- Where a thread stands as far as one transport is concerned. -/
def Standing.to (kind : TransportKind) (standing : Standing) : Standing :=
  if standing.kind? = some kind then standing else .free

@[simp] lemma Standing.free_to (kind : TransportKind) : Standing.free.to kind = .free := rfl

@[simp] lemma Standing.draining_to (kind : TransportKind) (i : Nat) :
    (Standing.draining kind i).to kind = .draining kind i := if_pos rfl

@[simp] lemma Standing.joining_to (kind : TransportKind) (w : Nat) :
    (Standing.joining kind w).to kind = .joining kind w := if_pos rfl

lemma Standing.to_of_ne {kind other : TransportKind} {standing : Standing}
    (h : standing.to kind = standing) (hother : other ≠ kind) : standing.to other = .free := by
  cases standing <;> simp_all [Standing.to, Standing.kind?, eq_comm]

@[simp] lemma Request.standing_to (r : Request) (s : System) :
    (r.standing s).to r.kind = r.standing s := by
  cases r with
  | send => rfl
  | drain kind limit => exact Standing.draining_to kind _
  | close kind =>
    cases hw : s.transport.worker with
    | some w => simp [Request.standing, Request.kind, hw]
    | none => simp [Request.standing, Request.kind, hw]

/-- The outlet after an action that has led its system to `s'`. -/
def Outlet.after (o : Outlet) (a : Action) (s' : System) : Outlet :=
  { system := s', arrivals := o.arrivals ++ (o.system.arrival? a).toList }

lemma Outlet.act?_eq_some_iff {o o' : Outlet} {kind : TransportKind} {a : Action} :
    o.act? kind a = some o' ↔ ∃ s', System.Step kind o.system a s' ∧ o' = o.after a s' := by
  simp [Outlet.act?, Outlet.after, System.perform?_eq_some_iff, eq_comm (a := o')]

namespace System

variable {kind : TransportKind} {s s' : System} {a : Action}

lemma Reachable.concat (h : Reachable kind s) (hs : Step kind s a s') : Reachable kind s' := by
  obtain ⟨as, hpath⟩ := h
  exact ⟨as ++ [a], path_concat_iff.2 ⟨s, hpath, perform?_of_step hs⟩⟩

/-- A wait that was begun stays. -/
lemma Step.exists_wait {i : Nat} {d : Wait} (hs : Step kind s a s') (hd : s.waits[i]? = some d) :
    ∃ d', s'.waits[i]? = some d' := by
  cases hs with
  | await =>
    have hlt : i < s.waits.length := (List.getElem?_eq_some_iff.1 hd).1
    exact ⟨d, by rw [List.getElem?_append_left hlt, hd]⟩
  | check | giveUp => exact ⟨_, getElem?_setWait hd⟩
  | notice => exact ⟨_, by rw [System.notice, List.getElem?_map, hd, Option.map_some]⟩
  | queue | start | close | closeAgain | park | wake | stop | opened | openFailed | fetch
  | fetchNothing | write | writeFailed | complete | leaveWaiting | leave => exact ⟨d, hd⟩

end System

/-! ## Views -/

/-- What one transport sees of a thread: itself, the requests for it, and where the thread stands.
-/
structure View where
  outlet : Outlet
  requests : List Request
  standing : Standing

namespace View

variable {kind : TransportKind} {v v' : View} {a : Option Action}

/-- Whether an action is taken by a worker, or by a thread that waits until the transport is idle.
-/
def Allows (v : View) (kind : TransportKind) (a : Action) : Prop :=
  a.isWork = true ∨ ∃ i, v.standing = .draining kind i ∧ (a = .check i ∨ a = .giveUp i)

/-- Whether what a thread waits for has happened: its wait has returned, or the worker has ended. -/
def IsOver (v : View) (kind : TransportKind) : Prop :=
  (∃ i d b, v.standing = .draining kind i ∧ v.outlet.system.waits[i]? = some d ∧
    d.phase = .returned b) ∨
  ∃ w k, v.standing = .joining kind w ∧ v.outlet.system.workers[w]? = some k ∧ k.task = .ended

/-- What can happen to one transport and its thread, with the action that is taken on the
transport. -/
inductive Step (kind : TransportKind) (v : View) : Option Action → View → Prop
  | begin {r : Request} {requests : List Request} {s' : System} (hfree : v.standing = .free)
      (hr : v.requests = r :: requests) (hkind : r.kind = kind)
      (hs : System.Step kind v.outlet.system r.action s') :
      Step kind v (some r.action)
        ⟨v.outlet.after r.action s', requests, r.standing v.outlet.system⟩
  | act {a : Action} {s' : System} (ha : v.Allows kind a)
      (hs : System.Step kind v.outlet.system a s') :
      Step kind v (some a) { v with outlet := v.outlet.after a s' }
  | resume (h : v.IsOver kind) : Step kind v none { v with standing := .free }

/-- Whether the action of a step succeeds. -/
def Succeeds (v : View) (a : Option Action) : Prop :=
  ∀ b ∈ a, v.outlet.system.Succeeds b

/-- The transport is one that a run leads to, and what the thread waits for is there: its wait, or a
worker that is the current one no longer. -/
structure IsFounded (kind : TransportKind) (v : View) : Prop where
  reachable : System.Reachable kind v.outlet.system
  draining : ∀ i, v.standing = .draining kind i → ∃ d, v.outlet.system.waits[i]? = some d
  joining : ∀ w, v.standing = .joining kind w → v.outlet.system.transport.worker ≠ some w ∧
    ∃ k, v.outlet.system.workers[w]? = some k

lemma isFounded_start (kind : TransportKind) (requests : List Request) :
    IsFounded kind ⟨{}, requests, .free⟩ where
  reachable := ⟨[], System.Path.nil {}⟩
  draining := nofun
  joining := nofun

/-- A request that makes a thread wait founds what it waits for. -/
lemma isFounded_begin {o : Outlet} {r : Request} {requests : List Request} {s' : System}
    (h : System.Reachable kind o.system) (hs : System.Step kind o.system r.action s') :
    IsFounded kind ⟨o.after r.action s', requests, r.standing o.system⟩ where
  reachable := h.concat hs
  draining := by
    intro i hi
    cases r with
    | send => cases hi
    | drain _ limit =>
      obtain ⟨-, rfl⟩ := Standing.draining.inj hi
      obtain rfl := System.Step.of_await hs
      exact ⟨_, List.getElem?_concat_length⟩
    | close => cases hw : o.system.transport.worker <;> simp [Request.standing, hw] at hi
  joining := by
    intro w hw
    cases r with
    | send | drain => cases hw
    | close =>
      have hcurrent : o.system.transport.worker = some w := by
        cases hw' : o.system.transport.worker <;> simp_all [Request.standing]
      obtain ⟨as, hpath⟩ := h
      obtain ⟨k, hk⟩ := hpath.ordered.exists_current hcurrent
      obtain ⟨k', hk', hends, -⟩ := hs.session_of_worker hpath.ordered hk
      obtain ⟨-, ⟨-, hkeeps⟩ | ⟨hne, -⟩⟩ := hends hcurrent
      · exact absurd trivial hkeeps
      · exact ⟨hne, k', hk'⟩

lemma Step.isFounded (hs : Step kind v a v') (h : v.IsFounded kind) : v'.IsFounded kind := by
  cases hs with
  | begin hfree hr hkind hs => exact isFounded_begin h.reachable hs
  | act ha hs =>
    refine ⟨h.reachable.concat hs, ?_, ?_⟩
    · intro i hi
      obtain ⟨d, hd⟩ := h.draining i hi
      exact hs.exists_wait hd
    · intro w hw
      obtain ⟨hne, k, hk⟩ := h.joining w hw
      obtain ⟨as, hpath⟩ := h.reachable
      obtain ⟨k', hk', -, hstays⟩ := hs.session_of_worker hpath.ordered hk
      exact ⟨(hstays hne).2, k', hk'⟩
  | resume => exact ⟨h.reachable, nofun, nofun⟩

end View

namespace Caller

variable {c c' : Caller} {e : Event} {kind other : TransportKind}

/-- What a transport sees of a thread. -/
def view (c : Caller) (kind : TransportKind) : View where
  outlet := c.outlet kind
  requests := requestsTo kind c.requests
  standing := c.standing.to kind

@[simp] lemma outlet_setOutlet (c : Caller) (kind : TransportKind) (o : Outlet) :
    (c.setOutlet kind o).outlet kind = o := by
  cases kind <;> rfl

lemma outlet_setOutlet_of_ne (c : Caller) (o : Outlet) (h : other ≠ kind) :
    (c.setOutlet kind o).outlet other = c.outlet other := by
  cases kind <;> cases other <;> first | rfl | exact absurd rfl h

@[simp] lemma outlet_with (c : Caller) (requests : List Request) (standing : Standing)
    (kind : TransportKind) :
    ({ c with requests, standing } : Caller).outlet kind = c.outlet kind := by
  cases kind <;> rfl

@[simp] lemma requests_setOutlet (c : Caller) (kind : TransportKind) (o : Outlet) :
    (c.setOutlet kind o).requests = c.requests := by
  cases kind <;> rfl

@[simp] lemma standing_setOutlet (c : Caller) (kind : TransportKind) (o : Outlet) :
    (c.setOutlet kind o).standing = c.standing := by
  cases kind <;> rfl

lemma act?_eq_some_iff {a : Action} : c.act? kind a = some c' ↔
    ∃ s', System.Step kind (c.outlet kind).system a s' ∧
      c' = c.setOutlet kind ((c.outlet kind).after a s') := by
  rw [act?, Option.map_eq_some_iff]
  constructor
  · rintro ⟨o', ho, rfl⟩
    obtain ⟨s', hs, rfl⟩ := Outlet.act?_eq_some_iff.1 ho
    exact ⟨s', hs, rfl⟩
  · rintro ⟨s', hs, rfl⟩
    exact ⟨_, Outlet.act?_eq_some_iff.2 ⟨s', hs, rfl⟩, rfl⟩

/-- An event is a step for one transport, by way of the action `a`, and nothing for the other. -/
def IsStep (c : Caller) (e : Event) (c' : Caller) (kind : TransportKind) (a : Option Action) :
    Prop :=
  View.Step kind (c.view kind) a (c'.view kind) ∧
    (∀ other, other ≠ kind → c'.view other = c.view other) ∧
    (c.Succeeds e → (c.view kind).Succeeds a)

/-- An action on a transport that the thread, or a worker, may take as it stands. -/
lemma isStep_act {a : Action} (h : c.act? kind a = some c') (ha : (c.view kind).Allows kind a)
    (he : c.Succeeds e → (c.outlet kind).system.Succeeds a) : c.IsStep e c' kind (some a) := by
  obtain ⟨s', hs, rfl⟩ := act?_eq_some_iff.1 h
  refine ⟨?_, ?_, ?_⟩
  · have hview : (c.setOutlet kind ((c.outlet kind).after a s')).view kind =
        { c.view kind with outlet := (c.outlet kind).after a s' } := by
      simp [view]
    rw [hview]
    exact View.Step.act ha hs
  · intro other hother
    simp [view, outlet_setOutlet_of_ne c _ hother]
  · intro hc b hb
    obtain rfl := Option.some.inj hb
    exact he hc

/-- The thread takes up its next request. -/
lemma isStep_begin {r : Request} {requests : List Request} (hfree : c.standing = .free)
    (hr : c.requests = r :: requests) (h : ({ c with requests } : Caller).begin? r = some c') :
    c.IsStep e c' r.kind (some r.action) := by
  obtain ⟨c₁, hc₁, rfl⟩ := Option.map_eq_some_iff.1 h
  obtain ⟨s', hs, rfl⟩ := act?_eq_some_iff.1 hc₁
  refine ⟨?_, ?_, ?_⟩
  · have hstep := View.Step.begin (v := c.view r.kind) (by simp [view, hfree])
      (by rw [view, hr, requestsTo_cons_self]) rfl (by simpa [view] using hs)
    convert hstep using 1
    simp [view]
  · intro other hother
    have hto := Standing.to_of_ne (r.standing_to (c.outlet r.kind).system) hother
    simp [view, outlet_setOutlet_of_ne _ _ hother, hfree, hr, hto,
      requestsTo_cons_of_ne (Ne.symm hother)]
  · intro _ b hb
    obtain rfl := Option.some.inj hb
    cases r <;> trivial

/-- The thread goes on because what it waited for has happened. -/
lemma isStep_resume (hstanding : c.standing.to kind = c.standing) (h : (c.view kind).IsOver kind) :
    c.IsStep e { c with standing := .free } kind none := by
  refine ⟨View.Step.resume h, ?_, nofun⟩
  intro other hother
  simp [view, Standing.to_of_ne hstanding hother]

theorem exists_step (h : c.perform? e = some c') : ∃ kind a, c.IsStep e c' kind a := by
  cases e with
  | proceed =>
    rw [perform?, proceed?] at h
    split at h
    case h_1 hfree =>
      split at h
      case h_1 r requests hr => exact ⟨_, _, isStep_begin hfree hr h⟩
      case h_2 => cases h
    case h_2 kind i hstanding =>
      split at h
      case h_1 b hphase =>
        obtain rfl := Option.some.inj h
        obtain ⟨d, hd, hb⟩ := Option.map_eq_some_iff.1 hphase
        refine ⟨kind, none, isStep_resume (by simp [hstanding]) (Or.inl ⟨i, d, b, ?_, hd, hb⟩)⟩
        simp [view, hstanding]
      case h_2 =>
        refine ⟨kind, _, isStep_act h (Or.inr ⟨i, ?_, Or.inl rfl⟩) fun _ => trivial⟩
        simp [view, hstanding]
    case h_3 kind w hstanding =>
      obtain ⟨htask, h⟩ := Option.ite_none_right_eq_some.1 h
      obtain rfl := Option.some.inj h
      obtain ⟨k, hk, ht⟩ := Option.map_eq_some_iff.1 htask
      refine ⟨kind, none, isStep_resume (by simp [hstanding]) (Or.inr ⟨w, k, ?_, hk, ht⟩)⟩
      simp [view, hstanding]
  | giveUp =>
    rw [perform?] at h
    split at h
    case h_1 kind i hstanding =>
      refine ⟨kind, _, isStep_act h (Or.inr ⟨i, ?_, Or.inr rfl⟩) fun he => he kind i hstanding⟩
      simp [view, hstanding]
    case h_2 => cases h
  | work kind a =>
    obtain ⟨ha, h⟩ := Option.ite_none_right_eq_some.1 h
    exact ⟨kind, _, isStep_act h (Or.inl ha) id⟩

/-! ## Runs -/

/-- What one transport sees holds after a run, if it does so at first and is kept by the steps of
that transport, each of which succeeds if the events do. -/
lemma Run.view_induction {allowed : Caller → Event → Prop} {motive : View → Prop} {es : List Event}
    (h : Run allowed c es c') (kind : TransportKind)
    (step : ∀ v a v', View.Step kind v a v' → ((∀ c e, allowed c e → c.Succeeds e) → v.Succeeds a) →
      motive v → motive v')
    (start : motive (c.view kind)) : motive (c'.view kind) := by
  induction h with
  | nil => exact start
  | cons he hperform _ ih =>
    refine ih ?_
    obtain ⟨acting, a, hstep, hother, hsucceeds⟩ := exists_step hperform
    by_cases hkind : kind = acting
    · subst hkind
      exact step _ a _ hstep (fun hall => hsucceeds (hall _ _ he)) start
    · rw [hother kind hkind]
      exact start

/-- A thread that has only begun its requests, as one transport sees it. -/
lemma view_start (requests : List Request) (kind : TransportKind) :
    ({ requests } : Caller).view kind = ⟨{}, requestsTo kind requests, .free⟩ := by
  cases kind <;> rfl

lemma isFounded_start (requests : List Request) (kind : TransportKind) :
    (({ requests } : Caller).view kind).IsFounded kind := by
  rw [view_start]
  exact View.isFounded_start kind _

lemma isFounded_perform? (h : c.perform? e = some c') (hf : ∀ kind, (c.view kind).IsFounded kind)
    (kind : TransportKind) : (c'.view kind).IsFounded kind := by
  obtain ⟨acting, a, hstep, hother, -⟩ := exists_step h
  by_cases hkind : kind = acting
  · subst hkind
    exact hstep.isFounded (hf kind)
  · rw [hother kind hkind]
    exact hf kind

lemma Run.isFounded {allowed : Caller → Event → Prop} {requests : List Request} {es : List Event}
    (h : Run allowed { requests } es c) (kind : TransportKind) : (c.view kind).IsFounded kind := by
  refine h.view_induction kind (motive := fun v => v.IsFounded kind) ?_ ?_
  · exact fun v a v' hstep _ hv => hstep.isFounded hv
  · exact isFounded_start requests kind

end Caller

end OscRemote
