import OscRemote.Proofs.Client.Caller

/-!
# What arrives, whatever fails

What arrives at the peer of a transport is what its workers have written, worker by worker and in
order, whether or not a connection is refused, a write fails or a worker is told to end
(`Caller.Run.messagesOf_eq`).  So a stream connection carries the frames of what its worker has
written, and nothing else that is complete (`Caller.Run.streams_eq`).

Only a write makes a message arrive, and only a write makes a worker have written more; the
induction is on the steps of one transport, which is all that either of the two is about.
-/

namespace OscRemote

/-! ## What a worker has written -/

/-- What the worker with this number has written. -/
def System.writtenBy (s : System) (w : Nat) : List Octets :=
  ((s.workers[w]?).map (·.written)).getD []

/-- What a worker has written grows by what it writes, and by nothing else. -/
lemma Worker.Step.written_eq {kind : TransportKind} {w : Nat} {t t' : Transport} {k k' : Worker}
    {a : Action} (hs : Step kind w t k a t' k') (ha : a ≠ .write w) : k'.written = k.written := by
  cases hs with
  | park hp =>
    obtain ⟨wake, stop, rfl, -⟩ := Worker.park?_eq_some hp
    rfl
  | wake hp =>
    obtain ⟨wake, -, -, rfl⟩ := Worker.resume?_eq_some hp
    rfl
  | stop hp =>
    obtain ⟨stop, -, -, rfl⟩ := Worker.stop?_eq_some hp
    rfl
  | write => exact absurd rfl ha
  | accept | tellToStop | opened | fail | fetch | fetchNothing | complete | leaveWaiting | leave =>
    rfl

namespace System

variable {kind : TransportKind} {s s' : System} {a : Action} {w : Nat}

lemma writtenBy_eq {k : Worker} (hk : s.workers[w]? = some k) : s.writtenBy w = k.written := by
  rw [writtenBy, hk]
  rfl

/-- A message that a worker writes arrives, and is the last that it has written. -/
lemma Step.writtenBy_of_write (hs : Step kind s (.write w) s') :
    ∃ message, s.arrival? (.write w) = some (.message w message) ∧
      s'.writtenBy w = s.writtenBy w ++ [message] := by
  cases hs with
  | @write _ k message hk ht =>
    have hlt : w < s.workers.length := (List.getElem?_eq_some_iff.1 hk).1
    refine ⟨message, by simp only [arrival?, hk, Option.map_some, ht], ?_⟩
    rw [writtenBy_eq hk, writtenBy_eq (List.getElem?_set_self hlt)]
  | leaveWaiting _ ha | leave _ ha => simp at ha

lemma Step.writtenBy_of_ne (hs : Step kind s a s') (ho : s.Ordered) (ha : a ≠ .write w) :
    s'.writtenBy w = s.writtenBy w := by
  rcases hs.worker_cases ho with ⟨v, k, k', hk, hstep, hworkers⟩ | ⟨message, -, -, -, hworkers⟩ |
    ⟨-, -, -, hworkers⟩ | ⟨-, -, hworkers⟩
  · by_cases hv : v = w
    · subst hv
      have hlt : v < s.workers.length := (List.getElem?_eq_some_iff.1 hk).1
      have hk' : s'.workers[v]? = some k' := by rw [hworkers, List.getElem?_set_self hlt]
      rw [writtenBy_eq hk, writtenBy_eq hk', hstep.written_eq ha]
    · rw [writtenBy, hworkers, List.getElem?_set_ne hv, ← writtenBy]
  · rw [writtenBy, writtenBy, hworkers]
    rcases Nat.lt_trichotomy w s.workers.length with hlt | rfl | hlt
    · rw [List.getElem?_append_left hlt]
    · rw [List.getElem?_concat_length, List.getElem?_eq_none (Nat.le_refl _)]
      rfl
    · rw [List.getElem?_eq_none (Nat.le_of_lt hlt), List.getElem?_eq_none]
      rw [List.length_append, List.length_singleton]
      exact hlt
  · rw [writtenBy, hworkers, ← writtenBy]
  · rw [writtenBy, hworkers, ← writtenBy]

end System

/-! ## What has arrived of a worker -/

namespace Outlet

variable {kind : TransportKind} {o : Outlet} {a : Action} {s' : System} {w : Nat}

/-- The messages of one worker that have arrived, in order. -/
def messagesOf (o : Outlet) (w : Nat) : List Octets :=
  o.arrivals.filterMap fun
    | .message v message => if v = w then some message else none
    | _ => none

lemma octetsOf_eq (o : Outlet) (w : Nat) : o.octetsOf w = frames (o.messagesOf w) := by
  rw [octetsOf, messagesOf]
  induction o.arrivals with
  | nil => rfl
  | cons arrival arrivals ih =>
    rw [List.flatMap_cons, ih]
    cases arrival with
    | connection | interrupted => rfl
    | message v message =>
      by_cases hv : v = w
      · simp [hv, frames]
      · simp [hv]

/-- What has arrived of a worker is what it has written, and stays so. -/
lemma messagesOf_after (hs : System.Step kind o.system a s') (ho : o.system.Ordered)
    (h : o.messagesOf w = o.system.writtenBy w) :
    (o.after a s').messagesOf w = s'.writtenBy w := by
  by_cases ha : a = .write w
  · subst ha
    obtain ⟨message, harrival, hwritten⟩ := hs.writtenBy_of_write
    rw [hwritten, ← h, messagesOf, after, harrival, List.filterMap_append, ← messagesOf]
    simp
  · rw [hs.writtenBy_of_ne ho ha, ← h, messagesOf, after, List.filterMap_append, ← messagesOf]
    refine (congrArg _ ?_).trans (List.append_nil _)
    cases a with
    | write v =>
      have hv : v ≠ w := fun heq => ha (congrArg Action.write heq)
      simp only [System.arrival?]
      split <;> simp [hv]
    | stop v =>
      simp only [System.arrival?]
      split <;> rfl
    | _ => rfl

end Outlet

namespace Caller

variable {allowed : Caller → Event → Prop} {requests : List Request} {es : List Event} {c : Caller}

/-- Whatever happens, what arrives of a worker is what it has written. -/
theorem Run.messagesOf_eq (h : Run allowed { requests } es c) (kind : TransportKind) (w : Nat) :
    (c.outlet kind).messagesOf w = (c.outlet kind).system.writtenBy w := by
  have hview : (c.view kind).IsFounded kind ∧
      (c.view kind).outlet.messagesOf w = (c.view kind).outlet.system.writtenBy w := by
    refine h.view_induction kind (motive := fun v => v.IsFounded kind ∧
      v.outlet.messagesOf w = v.outlet.system.writtenBy w) ?_ ?_
    · rintro v a v' hstep - ⟨hfounded, hv⟩
      obtain ⟨as, hpath⟩ := hfounded.reachable
      refine ⟨hstep.isFounded hfounded, ?_⟩
      cases hstep with
      | begin _ _ _ hs => exact Outlet.messagesOf_after hs hpath.ordered hv
      | act _ hs => exact Outlet.messagesOf_after hs hpath.ordered hv
      | resume => exact hv
    · rw [view_start]
      exact ⟨View.isFounded_start kind _, rfl⟩
  exact hview.2

/-- Whatever happens, what arrives on each connection are the frames of what its worker has written.
-/
theorem Run.streams_eq (h : Run allowed { requests } es c) (kind : TransportKind) :
    (c.outlet kind).streams =
      (c.outlet kind).connections.map fun w => frames ((c.outlet kind).system.writtenBy w) := by
  rw [Outlet.streams]
  refine List.map_congr_left fun w _ => ?_
  rw [Outlet.octetsOf_eq, h.messagesOf_eq kind w]

end Caller

end OscRemote
