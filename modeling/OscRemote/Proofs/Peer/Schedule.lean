import OscRemote.Proofs.Client.Arrivals
import OscRemote.Proofs.Client.Rest
import OscRemote.Proofs.Peer.Settle

/-!
# Links as a schedule

What two links make of requests is one of the things that can happen to a thread with its two
transports: the thread carries out the requests in order, and after each the worker goes on as far
as the peer lets it (`Links.exists_run`).  So whatever holds of every run of a thread holds of what
links make of the same requests, and what the links say has reached the peer is what has arrived.

The links keep no record of waiting callers.  `Outlet.Matches` compares an outlet with a link but for
that, and `System.Step.of_shared` says that it makes no difference to what workers do.
-/

namespace OscRemote

/-! ## Steps of workers -/

namespace System

variable {kind : TransportKind} {s s' s₁ : System} {a : Action}

/-- What callers do among themselves is nothing to a step of a worker, or to one by which a caller
sends or closes. -/
lemma Step.of_shared (hs : Step kind s a s') (ha : ¬ a.IsAmongCallers)
    (ht : s₁.transport = s.transport) (hw : s₁.workers = s.workers) :
    ∃ s₁', Step kind s₁ a s₁' ∧ s₁'.transport = s'.transport ∧ s₁'.workers = s'.workers ∧
      s₁'.waits = s₁.waits := by
  obtain ⟨t, ks, ws, n⟩ := s₁
  obtain rfl : t = s.transport := ht
  obtain rfl : ks = s.workers := hw
  cases hs with
  | queue message hw => exact ⟨_, .queue message hw, rfl, rfl, rfl⟩
  | start message hw => exact ⟨_, .start message hw, rfl, rfl, rfl⟩
  | close hw => exact ⟨_, .close hw, rfl, rfl, rfl⟩
  | closeAgain hw => exact ⟨_, .closeAgain hw, rfl, rfl, rfl⟩
  | await | check | giveUp | notice => exact absurd trivial ha
  | park hk hp => exact ⟨_, .park hk hp, rfl, rfl, rfl⟩
  | wake hk hp => exact ⟨_, .wake hk hp, rfl, rfl, rfl⟩
  | stop hk hp => exact ⟨_, .stop hk hp, rfl, rfl, rfl⟩
  | opened hk ht hw => exact ⟨_, .opened hk ht hw, rfl, rfl, rfl⟩
  | openFailed hk ht hw => exact ⟨_, .openFailed hk ht hw, rfl, rfl, rfl⟩
  | fetch hk ht hw hq => exact ⟨_, .fetch hk ht hw hq, rfl, rfl, rfl⟩
  | fetchNothing hk ht hw hq => exact ⟨_, .fetchNothing hk ht hw hq, rfl, rfl, rfl⟩
  | write hk ht => exact ⟨_, .write hk ht, rfl, rfl, rfl⟩
  | writeFailed hk ht hw => exact ⟨_, .writeFailed hk ht hw, rfl, rfl, rfl⟩
  | complete hk ht hw => exact ⟨_, .complete hk ht hw, rfl, rfl, rfl⟩
  | leaveWaiting hk ha hw => exact ⟨_, .leaveWaiting hk ha hw, rfl, rfl, rfl⟩
  | leave hk ha hw => exact ⟨_, .leave hk ha hw, rfl, rfl, rfl⟩

/-- What callers do among themselves is nothing to the workers. -/
lemma Step.of_isAmongCallers (hs : Step kind s a s') (ha : a.IsAmongCallers) :
    s'.transport = s.transport ∧ s'.workers = s.workers := by
  cases hs with
  | await | check | giveUp | notice => exact ⟨rfl, rfl⟩
  | leaveWaiting _ h | leave _ h =>
    obtain ⟨rfl | rfl, -⟩ | ⟨rfl, -⟩ := h <;> cases ha
  | _ => cases ha

end System

/-- An outlet whose transport and workers are those of a link, with the same connections. -/
structure Outlet.Matches (o : Outlet) (l : Link) : Prop where
  transport : o.system.transport = l.system.transport
  workers : o.system.workers = l.system.workers
  connections : o.connections = l.connections

namespace Outlet

variable {kind : TransportKind} {o : Outlet} {l : Link} {a : Action} {s' : System}

lemma connections_after (o : Outlet) (a : Action) (s' : System) :
    (o.after a s').connections = o.connections ++ a.opened?.toList := by
  rw [connections, after, List.filterMap_append, ← connections]
  congr 1
  cases a with
  | write w | stop w =>
    simp only [System.arrival?]
    split <;> rfl
  | _ => rfl

/-- An action on the link is possible on the outlet, with the same outcome. -/
lemma Matches.act (h : o.Matches l) (hs : l.system.perform? l.kind a = some s')
    (ha : ¬ a.IsAmongCallers) : ∃ s₁, System.Step l.kind o.system a s₁ ∧
      s₁.waits = o.system.waits ∧ (o.after a s₁).Matches (l.act a) := by
  obtain ⟨hsystem, -, hconnections⟩ := Link.act_of_perform? hs
  obtain ⟨s₁, hs₁, htransport, hworkers, hwaits⟩ :=
    (System.step_of_perform? hs).of_shared ha h.transport h.workers
  refine ⟨s₁, hs₁, hwaits, ?_, ?_, ?_⟩
  · rw [hsystem]
    exact htransport
  · rw [hsystem]
    exact hworkers
  · rw [connections_after, hconnections, h.connections]

/-- What callers do among themselves makes no difference to what an outlet is compared by. -/
lemma Matches.after {s₁ : System} (h : o.Matches l) (hs : System.Step kind o.system a s₁)
    (ha : a.IsAmongCallers) : (o.after a s₁).Matches l := by
  have hnone : a.opened? = none := by
    cases a <;> first | rfl | cases ha
  obtain ⟨htransport, hworkers⟩ := hs.of_isAmongCallers ha
  refine ⟨htransport.trans h.transport, hworkers.trans h.workers, ?_⟩
  rw [connections_after, hnone, h.connections]
  exact List.append_nil _

lemma Matches.of_link_eq {l' : Link} (h : o.Matches l) (hsystem : l'.system = l.system)
    (hconnections : l'.connections = l.connections) : o.Matches l' where
  transport := by rw [h.transport, hsystem]
  workers := by rw [h.workers, hsystem]
  connections := by rw [h.connections, hconnections]

end Outlet

namespace Link

/-- Whether a request comes to its end: a wait without a limit does so only if the transport gets
idle. -/
def Finishes (l : Link) : Request → Prop
  | .drain kind none => kind = l.kind → (l.drain none).2 = true
  | _ => True

/-- A request for the other transport is none for this one. -/
lemma handle_of_ne {l : Link} {r : Request} (h : r.kind ≠ l.kind) : l.handle r = l := by
  cases r <;> exact if_neg h

end Link

/-! ## Events -/

namespace Caller

variable {c c' c'' : Caller} {kind : TransportKind} {l : Link} {e : Event}

/-- Some run leads from one caller to another. -/
def Leads (c c' : Caller) : Prop := ∃ es, Run (fun _ _ => True) c es c'

lemma Leads.refl (c : Caller) : c.Leads c := ⟨[], .nil c⟩

lemma Leads.cons (h : c.perform? e = some c') (h' : c'.Leads c'') : c.Leads c'' := by
  obtain ⟨es, hrun⟩ := h'
  exact ⟨e :: es, .cons trivial h hrun⟩

lemma leads_of_perform? (h : c.perform? e = some c') : c.Leads c' := .cons h (.refl c')

lemma Leads.trans (h : c.Leads c') (h' : c'.Leads c'') : c.Leads c'' := by
  obtain ⟨es, hrun⟩ := h
  induction hrun with
  | nil => exact h'
  | cons _ hperform _ ih => exact .cons hperform (ih h')

/-- A run leads from one caller to another, and only one of the two transports takes part. -/
structure LeadsBy (kind : TransportKind) (c c' : Caller) : Prop where
  leads : c.Leads c'
  other : ∀ other, other ≠ kind → c'.outlet other = c.outlet other

lemma LeadsBy.trans (h : LeadsBy kind c c') (h' : LeadsBy kind c' c'') : LeadsBy kind c c'' where
  leads := h.leads.trans h'.leads
  other other hother := (h'.other other hother).trans (h.other other hother)

/-- From one caller to another only workers of one transport act. -/
structure OnlyWorks (kind : TransportKind) (c c' : Caller) : Prop extends LeadsBy kind c c' where
  requests : c'.requests = c.requests
  standing : c'.standing = c.standing
  waits : (c'.outlet kind).system.waits = (c.outlet kind).system.waits

lemma OnlyWorks.refl (kind : TransportKind) (c : Caller) : OnlyWorks kind c c :=
  ⟨⟨.refl c, fun _ _ => rfl⟩, rfl, rfl, rfl⟩

lemma OnlyWorks.trans (h : OnlyWorks kind c c') (h' : OnlyWorks kind c' c'') :
    OnlyWorks kind c c'' where
  toLeadsBy := h.toLeadsBy.trans h'.toLeadsBy
  requests := h'.requests.trans h.requests
  standing := h'.standing.trans h.standing
  waits := h'.waits.trans h.waits

/-- An event by which something acts on one of the two transports. -/
lemma leadsBy_of_act? {a : Action} {s' : System} (hs : System.Step kind (c.outlet kind).system a s')
    (hperform : c.perform? e = c.act? kind a) :
    LeadsBy kind c (c.setOutlet kind ((c.outlet kind).after a s')) where
  leads := leads_of_perform? (hperform.trans (act?_eq_some_iff.2 ⟨s', hs, rfl⟩))
  other _ hother := outlet_setOutlet_of_ne c _ hother

/-- A worker acts as the worker of the link does. -/
lemma exists_work {a : Action} {s' : System} (hkind : l.kind = kind)
    (hm : (c.outlet kind).Matches l) (hs : l.system.perform? kind a = some s')
    (ha : a.isWork = true) (hnotice : a ≠ .notice) :
    ∃ c', OnlyWorks kind c c' ∧ (c'.outlet kind).Matches (l.act a) := by
  have hcallers : ¬ a.IsAmongCallers := by
    cases a with
    | await | check | giveUp => cases ha
    | notice => exact absurd rfl hnotice
    | _ => exact id
  subst hkind
  obtain ⟨s₁, hs₁, hwaits, hmatch⟩ := hm.act hs hcallers
  refine ⟨_, ⟨leadsBy_of_act? (e := .work l.kind a) hs₁ (if_pos ha), by simp, by simp, ?_⟩, ?_⟩
  · rw [outlet_setOutlet]
    exact hwaits
  · rw [outlet_setOutlet]
    exact hmatch

/-- The worker goes on as the worker of the link does. -/
lemma exists_settle (hkind : l.kind = kind) (hm : (c.outlet kind).Matches l) (hl : l.IsSound) :
    ∃ c', OnlyWorks kind c c' ∧ (c'.outlet kind).Matches l.settle := by
  have hall := Link.settleWithin_induction (l := l) (motive := fun l' => l'.IsSound ∧
    l'.kind = kind ∧ ∃ c', OnlyWorks kind c c' ∧ (c'.outlet kind).Matches l') ?_
    (3 * l.transport.pending + 4) ⟨hl, hkind, c, .refl kind c, hm⟩
  · exact hall.2.2
  · rintro l' a ha ⟨hsound, rfl, c', honly, hm'⟩
    obtain ⟨s', hs', hwork, hnotice, hpark, -⟩ := hsound.exists_perform? ha
    obtain ⟨c'', honly', hm''⟩ := exists_work rfl hm' hs' hwork hnotice
    exact ⟨hsound.act hs' hpark, l'.act_kind a, c'', honly.trans honly', hm''⟩

/-! ## Requests -/

/-- Whether a thread is free to take up these requests. -/
structure IsFreeFor (c : Caller) (requests : List Request) : Prop where
  requests : c.requests = requests
  free : c.standing = .free

/-- The thread begins to carry out a request. -/
lemma exists_begin {r : Request} {rest : List Request} {s' : System}
    (h : c.IsFreeFor (r :: rest)) (hm : ((c.outlet kind).after r.action s').Matches l)
    (hs : System.Step kind (c.outlet kind).system r.action s') (hkind : r.kind = kind) :
    ∃ c', LeadsBy kind c c' ∧ (c'.outlet kind).Matches l ∧ (c'.outlet kind).system = s' ∧
      c'.requests = rest ∧ c'.standing = r.standing (c.outlet kind).system := by
  subst hkind
  have hact : ({ c with requests := rest } : Caller).act? r.kind r.action =
      some (({ c with requests := rest } : Caller).setOutlet r.kind
        ((c.outlet r.kind).after r.action s')) :=
    act?_eq_some_iff.2 ⟨s', by simpa using hs, by simp⟩
  have hperform : c.perform? .proceed = some _ :=
    (proceed?_of_free h.free h.requests).trans (congrArg (Option.map _) hact)
  refine ⟨_, ⟨leads_of_perform? hperform, fun other hother => ?_⟩, ?_, ?_, ?_, ?_⟩
  · simp [outlet_setOutlet_of_ne _ _ hother]
  · simpa using hm
  · simp [Outlet.after]
  · simp
  · simp

/-- The thread goes on when what it waited for has happened. -/
lemma exists_free {requests : List Request} (hm : (c.outlet kind).Matches l)
    (hr : c.requests = requests)
    (hperform : c.perform? .proceed = some { c with standing := .free }) :
    ∃ c', LeadsBy kind c c' ∧ (c'.outlet kind).Matches l ∧ c'.IsFreeFor requests := by
  refine ⟨_, ⟨leads_of_perform? hperform, fun other _ => outlet_with c _ _ other⟩, ?_, hr, rfl⟩
  rw [outlet_with]
  exact hm

lemma perform?_of_returned {i : Nat} {d : Wait} {b : Bool}
    (hstanding : c.standing = .draining kind i)
    (hd : (c.outlet kind).system.waits[i]? = some d) (hp : d.phase = .returned b) :
    c.perform? .proceed = some { c with standing := .free } := by
  simp only [perform?, proceed?, hstanding, hd, Option.map_some, hp]

/-- An event by which the wait of a thread comes to be at another phase. -/
lemma exists_setWait {a : Action} {i : Nat} {d : Wait} {phase : WaitPhase}
    (hm : (c.outlet kind).Matches l) (hd : (c.outlet kind).system.waits[i]? = some d)
    (hs : System.Step kind (c.outlet kind).system a ((c.outlet kind).system.setWait i phase))
    (ha : a.IsAmongCallers) (hperform : c.perform? e = c.act? kind a) :
    ∃ c', LeadsBy kind c c' ∧ (c'.outlet kind).Matches l ∧ c'.requests = c.requests ∧
      c'.standing = c.standing ∧ (c'.outlet kind).system.waits[i]? = some { d with phase } := by
  refine ⟨_, leadsBy_of_act? hs hperform, ?_, by simp, by simp, ?_⟩
  · rw [outlet_setOutlet]
    exact hm.after hs ha
  · rw [outlet_setOutlet]
    exact (System.getElem?_setWait hd).trans (by rw [if_pos rfl])

/-- A thread that has begun to wait looks, and goes on at once if the transport is idle; else it
gives up, if it may. -/
lemma exists_return {requests : List Request} {i : Nat} {d : Wait}
    (hm : (c.outlet kind).Matches l) (hr : c.requests = requests)
    (hstanding : c.standing = .draining kind i)
    (hd : (c.outlet kind).system.waits[i]? = some d) (hp : d.phase = .entering)
    (hbounded : l.transport.isBusy = true → d.isBounded = true) :
    ∃ c', LeadsBy kind c c' ∧ (c'.outlet kind).Matches l ∧ c'.IsFreeFor requests := by
  have hlook : System.Step kind _ _ _ := .check hd (Or.inl hp)
  rw [hm.transport, ← Link.transport] at hlook
  obtain ⟨c₁, hleads₁, hm₁, hr₁, hstanding₁, hd₁⟩ := exists_setWait (e := .proceed) hm hd hlook
    trivial (by simp only [perform?, proceed?, hstanding, hd, Option.map_some, hp])
  rw [hstanding] at hstanding₁
  rw [hr] at hr₁
  cases hidle : l.transport.isBusy with
  | false =>
    obtain ⟨c', hleads', hfree⟩ :=
      exists_free hm₁ hr₁ (perform?_of_returned hstanding₁ hd₁ (if_neg (by simp [hidle])))
    exact ⟨c', hleads₁.trans hleads', hfree⟩
  | true =>
    have hgiveUp : System.Step kind _ _ _ := .giveUp hd₁ (hbounded hidle) (if_pos hidle)
    obtain ⟨c₂, hleads₂, hm₂, hr₂, hstanding₂, hd₂⟩ := exists_setWait (e := .giveUp) hm₁ hd₁ hgiveUp
      trivial (by simp only [perform?, hstanding₁])
    obtain ⟨c', hleads', hfree⟩ := exists_free hm₂ (hr₂.trans hr₁)
      (perform?_of_returned (hstanding₂.trans hstanding₁) hd₂ rfl)
    exact ⟨c', hleads₁.trans (hleads₂.trans hleads'), hfree⟩

variable {rest : List Request}

/-- The thread sends as the link does. -/
lemma exists_send {message : Octets} (hkind : l.kind = kind) (hl : l.IsSound)
    (hm : (c.outlet kind).Matches l) (h : c.IsFreeFor (.send kind message :: rest)) :
    ∃ c', LeadsBy kind c c' ∧ (c'.outlet kind).Matches (l.send message) ∧ c'.IsFreeFor rest := by
  obtain ⟨hkind', hsystem, hconnections⟩ := l.beforeSend_eq
  have hsound : (l.beforeSend.act (.send message)).IsSound :=
    (hl.of_system_eq hkind' hsystem).act rfl (by simp)
  obtain ⟨s', hs', -, hmatch⟩ :=
    (hm.of_link_eq hsystem hconnections).act (a := .send message) rfl id
  rw [hkind', hkind] at hs'
  obtain ⟨c₁, hleads₁, hm₁, -, hr₁, hfree₁⟩ :=
    exists_begin (r := .send kind message) h hmatch hs' rfl
  obtain ⟨c', honly, hm'⟩ :=
    exists_settle ((l.beforeSend.act_kind _).trans (hkind'.trans hkind)) hm₁ hsound
  exact ⟨c', hleads₁.trans honly.toLeadsBy, hm', honly.requests.trans hr₁,
    honly.standing.trans hfree₁⟩

/-- The thread waits as the link does.  Without a limit, the transport has to be idle in the end. -/
lemma exists_drain {limit : Option UInt64} (hkind : l.kind = kind) (hl : l.IsSound)
    (hm : (c.outlet kind).Matches l) (h : c.IsFreeFor (.drain kind limit :: rest))
    (hends : (l.drain limit).1.transport.isBusy = true → limit.isSome = true) :
    ∃ c', LeadsBy kind c c' ∧ (c'.outlet kind).Matches (l.drain limit).1 ∧ c'.IsFreeFor rest := by
  have hawait : System.Step kind (c.outlet kind).system _ _ := .await limit.isSome
  obtain ⟨c₁, hleads₁, hm₁, hsystem₁, hr₁, hstanding₁⟩ :=
    exists_begin (r := .drain kind limit) h (hm.after hawait trivial) hawait rfl
  obtain ⟨c₂, honly, hm₂⟩ := exists_settle (l := l.afterWait limit) hkind (hm₁.of_link_eq rfl rfl)
    (hl.of_system_eq rfl rfl)
  have hd : (c₂.outlet kind).system.waits[(c.outlet kind).system.waits.length]? =
      some { isBounded := limit.isSome } := by
    rw [honly.waits, hsystem₁]
    exact List.getElem?_concat_length
  obtain ⟨c', hleads', hm', hfree⟩ := exists_return hm₂ (honly.requests.trans hr₁)
    (honly.standing.trans hstanding₁) hd rfl hends
  exact ⟨c', hleads₁.trans (honly.toLeadsBy.trans hleads'), hm', hfree⟩

/-- The thread closes as the link does, and waits until the worker has ended. -/
lemma exists_close (hkind : l.kind = kind) (hl : l.IsSound) (hnone : l.nextAction? = none)
    (hm : (c.outlet kind).Matches l) (h : c.IsFreeFor (.close kind :: rest)) :
    ∃ c', LeadsBy kind c c' ∧ (c'.outlet kind).Matches l.close ∧ c'.IsFreeFor rest := by
  subst hkind
  obtain ⟨s', hs', -, hmatch⟩ := hm.act (a := .close) rfl id
  obtain ⟨c₁, hleads₁, hm₁, -, hr₁, hstanding₁⟩ :=
    exists_begin (r := .close l.kind) h hmatch hs' rfl
  obtain ⟨hw, hclose⟩ | ⟨w, s'', k, hw, hclose, hs'', -, hk, hended⟩ := hl.close_cases hnone
  · rw [hclose]
    refine ⟨c₁, hleads₁, hm₁, hr₁, hstanding₁.trans ?_⟩
    simp only [Request.standing, hm.transport, hw]
  · rw [hclose]
    have hk' := (Link.act_of_perform? hs'').1 ▸ hk
    rw [l.act_kind] at hs''
    obtain ⟨c₂, honly, hm₂⟩ := exists_work (l.act_kind _) hm₁ hs'' rfl (by simp)
    have hstanding₂ : c₂.standing = .joining l.kind w := by
      rw [honly.standing, hstanding₁]
      simp only [Request.standing, hm.transport, hw]
    have hproceed : c₂.perform? .proceed = some { c₂ with standing := .free } := by
      simp only [perform?, proceed?, hstanding₂, hm₂.workers, hk', Option.map_some, hended, if_true]
    obtain ⟨c', hleads', hm', hfree⟩ := exists_free hm₂ (honly.requests.trans hr₁) hproceed
    exact ⟨c', hleads₁.trans (honly.toLeadsBy.trans hleads'), hm', hfree⟩

/-- The thread carries out a request as the link does. -/
theorem exists_handle {r : Request} (hl : l.IsSound) (hnone : l.nextAction? = none)
    (hm : (c.outlet r.kind).Matches l) (h : c.IsFreeFor (r :: rest)) (hkind : l.kind = r.kind)
    (hends : l.Finishes r) :
    ∃ c', LeadsBy r.kind c c' ∧ (c'.outlet r.kind).Matches (l.handle r) ∧ c'.IsFreeFor rest := by
  cases r with
  | send kind message =>
    have heq : kind = l.kind := hkind.symm
    rw [Link.handle, if_pos heq]
    exact exists_send hkind hl hm h
  | drain kind limit =>
    have heq : kind = l.kind := hkind.symm
    rw [Link.handle, if_pos heq]
    refine exists_drain hkind hl hm h fun hbusy => ?_
    cases limit with
    | some limit => rfl
    | none =>
      have hidle := hends heq
      rw [Link.drain_eq] at hidle hbusy
      simp [hbusy] at hidle
  | close kind =>
    have heq : kind = l.kind := hkind.symm
    rw [Link.handle, if_pos heq]
    exact exists_close hkind hl hnone hm h

end Caller

/-! ## Two links -/

namespace Links

variable {ls : Links} {c : Caller} {kind : TransportKind} {r : Request}

/-- One of the two links. -/
def link (ls : Links) : TransportKind → Link
  | .stream => ls.stream
  | .datagram => ls.datagram

lemma link_handle (ls : Links) (r : Request) (kind : TransportKind) :
    (ls.handle r).link kind = (ls.link kind).handle r := by
  cases kind <;> rfl

/-- Links each of which is for its transport, is sound, and has nothing left to do. -/
structure IsSettled (ls : Links) : Prop where
  kind : ∀ kind, (ls.link kind).kind = kind
  isSound : ∀ kind, (ls.link kind).IsSound
  nextAction? : ∀ kind, (ls.link kind).nextAction? = none

lemma isSettled_ofConfig (config : Config) (peer : Peer) : (ofConfig config peer).IsSettled where
  kind kind := by cases kind <;> rfl
  isSound kind := by
    cases kind
    · exact Link.isSound_start .stream _ peer
    · exact Link.isSound_start .datagram _ peer
  nextAction? kind := by cases kind <;> rfl

lemma IsSettled.handle (h : ls.IsSettled) (r : Request) : (ls.handle r).IsSettled := by
  have hlink (kind : TransportKind) := (h.isSound kind).handle (h.nextAction? kind) r
  constructor
  · intro kind
    rw [link_handle, (hlink kind).1, h.kind]
  · intro kind
    rw [link_handle]
    exact (hlink kind).2.1
  · intro kind
    rw [link_handle]
    exact (hlink kind).2.2

/-- Whether every one of some requests comes to its end, one after the other. -/
def Finish : Links → List Request → Prop
  | _, [] => True
  | ls, r :: rs => (∀ kind, (ls.link kind).Finishes r) ∧ (ls.handle r).Finish rs

/-- Requests of which none waits without a limit come to their end. -/
lemma finish_of_limited {rs : List Request} (h : ∀ r ∈ rs, ∀ kind, r ≠ .drain kind none) :
    ls.Finish rs := by
  induction rs generalizing ls with
  | nil => trivial
  | cons r rs ih =>
    obtain ⟨hr, hrs⟩ := List.forall_mem_cons.1 h
    refine ⟨fun kind => ?_, ih hrs⟩
    cases r with
    | send | close => trivial
    | drain kind' limit =>
      cases limit with
      | some => trivial
      | none => exact absurd rfl (hr kind')

/-- The thread carries out requests as the links do. -/
theorem exists_handleAll {rs : List Request} (h : ls.IsSettled) (hends : ls.Finish rs)
    (hm : ∀ kind, (c.outlet kind).Matches (ls.link kind)) (hc : c.IsFreeFor rs) :
    ∃ c', c.Leads c' ∧ c'.IsDone ∧
      ∀ kind, (c'.outlet kind).Matches ((ls.handleAll rs).link kind) := by
  induction rs generalizing ls c with
  | nil => exact ⟨c, .refl c, ⟨hc.requests, hc.free⟩, hm⟩
  | cons r rs ih =>
    obtain ⟨hfirst, hrest⟩ := hends
    obtain ⟨c₁, hleads, hm₁, hc₁⟩ := Caller.exists_handle (h.isSound r.kind) (h.nextAction? r.kind)
      (hm r.kind) hc (h.kind r.kind) (hfirst r.kind)
    have hmatch (kind : TransportKind) : (c₁.outlet kind).Matches ((ls.handle r).link kind) := by
      rw [link_handle]
      by_cases hkind : kind = r.kind
      · subst hkind
        exact hm₁
      · rw [hleads.other kind hkind, Link.handle_of_ne (by rw [h.kind]; exact Ne.symm hkind)]
        exact hm kind
    obtain ⟨c', hleads', hdone, hm'⟩ := ih (h.handle r) hrest hmatch hc₁
    exact ⟨c', hleads.leads.trans hleads', hdone, hm'⟩

/-- What links make of requests is what happens in some run of a thread with these requests, and
what the links say to have reached the peer is what has arrived, connection by connection. -/
theorem exists_run (config : Config) (peer : Peer) {rs : List Request}
    (hends : (ofConfig config peer).Finish rs) :
    ∃ es c, Caller.Run (fun _ _ => True) { requests := rs } es c ∧ c.IsDone ∧ ∀ kind,
      (c.outlet kind).Matches (((ofConfig config peer).handleAll rs).link kind) ∧
      (c.outlet kind).connections.map (c.outlet kind).messagesOf =
        (((ofConfig config peer).handleAll rs).link kind).received := by
  have hmatch (kind : TransportKind) :
      (({ requests := rs } : Caller).outlet kind).Matches ((ofConfig config peer).link kind) := by
    cases kind <;> exact ⟨rfl, rfl, rfl⟩
  obtain ⟨c, ⟨es, hrun⟩, hdone, hm⟩ :=
    exists_handleAll (isSettled_ofConfig config peer) hends hmatch ⟨rfl, rfl⟩
  refine ⟨es, c, hrun, hdone, fun kind => ⟨hm kind, ?_⟩⟩
  rw [(hm kind).connections, Link.received]
  refine List.map_congr_left fun w _ => ?_
  rw [hrun.messagesOf_eq kind w, System.writtenBy, (hm kind).workers]
  rfl

end Links

end OscRemote
