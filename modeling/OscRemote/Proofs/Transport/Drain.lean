import OscRemote.Proofs.Transport.Status

/-!
# What a wait for an idle transport tells

A caller who waits until a transport is idle looks at flags only.  What this tells of the messages
that were sent before is found in the history of each: a message that joins the session of a worker
(`System.JoinsAs`) stays in it while the worker is the current one, and ceases to be among the
messages to be written only in two ways, by being taken off the queue after it was written, or by
being discarded with the queue (`System.IsDiscarded`).  `System.Path.follow_message` follows one
message from the action that sends it to the end of the run.
-/

namespace OscRemote

/-- The action discards what is in the queue: it closes, or reports that the current worker has no
connection or could not write. -/
def Action.Discards (t : Transport) : Action → Prop
  | .close => True
  | .openFailed w | .writeFailed w => t.worker = some w
  | _ => False

lemma Action.Discards.sent?_eq_none {a : Action} {t : Transport} (h : a.Discards t) :
    a.sent? = none := by
  cases a <;> first | rfl | cases h

lemma Action.IsAmongCallers.eq_none {a : Action} (h : a.IsAmongCallers) :
    a.sent? = none ∧ ∀ t, ¬ a.Discards t := by
  cases a <;> first | exact ⟨rfl, fun _ => id⟩ | cases h

/-! ## A worker in and after its session -/

namespace Worker

variable {kind : TransportKind} {w : Nat} {t t' : Transport} {k k' : Worker} {a : Action}

/-- While a worker is the current one, its session accepts what is sent.  The session ends by what
discards the queue, and by nothing else. -/
lemma Step.of_current (hs : Step kind w t k a t' k') (hw : t.worker = some w) :
    k'.accepted = k.accepted ++ a.sent?.toList ∧
      (t'.worker = some w ∧ ¬ a.Discards t ∨
        t'.worker ≠ some w ∧ a.Discards t ∧ k'.popped = k.popped) := by
  cases hs with
  | accept message => exact ⟨rfl, Or.inl ⟨hw, id⟩⟩
  | tellToStop => exact ⟨(List.append_nil _).symm, Or.inr ⟨nofun, trivial, rfl⟩⟩
  | park hp =>
    obtain ⟨wake, stop, rfl, -⟩ := park?_eq_some hp
    exact ⟨(List.append_nil _).symm, Or.inl ⟨hw, id⟩⟩
  | wake hp =>
    obtain ⟨wake, -, -, rfl⟩ := resume?_eq_some hp
    exact ⟨(List.append_nil _).symm, Or.inl ⟨hw, id⟩⟩
  | stop hp =>
    obtain ⟨stop, -, -, rfl⟩ := stop?_eq_some hp
    exact ⟨(List.append_nil _).symm, Or.inl ⟨hw, id⟩⟩
  | opened => exact ⟨(List.append_nil _).symm, Or.inl ⟨by simpa using hw, id⟩⟩
  | fail _ ha =>
    obtain ⟨rfl, -⟩ | ⟨rfl, -⟩ := ha
    · exact ⟨(List.append_nil _).symm, Or.inr ⟨nofun, hw, rfl⟩⟩
    · exact ⟨(List.append_nil _).symm, Or.inr ⟨nofun, hw, rfl⟩⟩
  | fetch | fetchNothing | write | complete =>
    exact ⟨(List.append_nil _).symm, Or.inl ⟨hw, id⟩⟩
  | leaveWaiting ha hne | leave hne ha => exact absurd hw hne

/-- What becomes of a worker after its session: it accepts nothing, and takes nothing up and nothing
off the queue.  If it was writing a message, it may come to write that message, and then writes no
more. -/
structure WindsUp (k k' : Worker) : Prop where
  accepted : k'.accepted = k.accepted
  fetched : k'.fetched = k.fetched
  popped : k'.popped = k.popped
  written : k'.written = k.written ∧
      (∀ message, k'.task = .writing message → k.task = .writing message) ∨
    ∃ message, k.task = .writing message ∧ k'.written = k.written ++ [message] ∧
      ∀ other, k'.task ≠ .writing other

lemma WindsUp.of_sameRecord (hr : SameRecord k k')
    (ht : ∀ message, k'.task = .writing message → k.task = .writing message) : k.WindsUp k' :=
  ⟨hr.accepted, hr.fetched, hr.popped, Or.inl ⟨hr.written, ht⟩⟩

lemma WindsUp.refl (k : Worker) : k.WindsUp k :=
  .of_sameRecord ⟨rfl, rfl, rfl, rfl⟩ fun _ => id

/-- After its session a worker winds up, and leaves the shared state alone. -/
lemma Step.windsUp (hs : Step kind w t k a t' k') (hw : t.worker ≠ some w) :
    k.WindsUp k' ∧ t' = t := by
  cases hs with
  | park hp =>
    obtain ⟨wake, stop, rfl, -⟩ := park?_eq_some hp
    exact ⟨.of_sameRecord ⟨rfl, rfl, rfl, rfl⟩ fun _ => id, rfl⟩
  | wake hp =>
    obtain ⟨wake, -, -, rfl⟩ := resume?_eq_some hp
    exact ⟨.of_sameRecord ⟨rfl, rfl, rfl, rfl⟩ nofun, rfl⟩
  | stop hp =>
    obtain ⟨stop, -, -, rfl⟩ := stop?_eq_some hp
    exact ⟨.of_sameRecord ⟨rfl, rfl, rfl, rfl⟩ nofun, rfl⟩
  | write ht => exact ⟨⟨rfl, rfl, rfl, Or.inr ⟨_, ht, rfl, nofun⟩⟩, rfl⟩
  | leaveWaiting ha hne | leave hne ha =>
    exact ⟨.of_sameRecord ⟨rfl, rfl, rfl, rfl⟩ nofun, rfl⟩
  | accept message hw' | tellToStop hw' | opened ht hw' | fail hw' ha | fetch ht hw' hq
  | fetchNothing ht hw' hq | complete ht hw' => exact absurd hw' hw

/-- A step that concerns another worker than the current one discards nothing, and sends nothing. -/
lemma Step.of_not_current (hs : Step kind w t k a t' k') (hw : t.worker ≠ some w) :
    a.sent? = none ∧ ¬ a.Discards t := by
  cases hs with
  | park | wake | stop | write => exact ⟨rfl, id⟩
  | leaveWaiting ha =>
    obtain ⟨rfl | rfl, -⟩ | ⟨rfl, -⟩ := ha
    · exact ⟨rfl, id⟩
    · exact ⟨rfl, hw⟩
    · exact ⟨rfl, hw⟩
  | leave hne ha => obtain ⟨rfl, -⟩ | ⟨rfl, -⟩ := ha <;> exact ⟨rfl, id⟩
  | accept message hw' | tellToStop hw' | opened ht hw' | fail hw' ha | fetch ht hw' hq
  | fetchNothing ht hw' hq | complete ht hw' => exact absurd hw' hw

/-- A session begins with a message, and its worker takes nothing up before it has a connection. -/
structure HasBegun (k : Worker) : Prop where
  accepted : k.accepted ≠ []
  fetched : k.task = .opening → k.fetched = []

lemma Step.hasBegun (hs : Step kind w t k a t' k') (h : k.HasBegun) : k'.HasBegun := by
  cases hs with
  | accept message => exact ⟨List.concat_ne_nil _ _, h.fetched⟩
  | tellToStop => exact ⟨h.accepted, h.fetched⟩
  | park hp =>
    obtain ⟨wake, stop, rfl, -⟩ := park?_eq_some hp
    exact ⟨h.accepted, h.fetched⟩
  | wake hp =>
    obtain ⟨wake, -, -, rfl⟩ := resume?_eq_some hp
    exact ⟨h.accepted, nofun⟩
  | stop hp =>
    obtain ⟨stop, -, -, rfl⟩ := stop?_eq_some hp
    exact ⟨h.accepted, nofun⟩
  | opened | fail | fetch | fetchNothing | write | complete | leaveWaiting | leave =>
    exact ⟨h.accepted, nofun⟩

end Worker

namespace System

variable {kind : TransportKind} {s s' : System} {a : Action}

lemma Path.hasBegun {as : List Action} (h : Path kind {} as s) :
    ∀ (w : Nat) (k : Worker), s.workers[w]? = some k → k.HasBegun := by
  refine h.induction (motive := fun _ s =>
    ∀ (w : Nat) (k : Worker), s.workers[w]? = some k → k.HasBegun) ?_ ?_
  · intro w k hk
    cases hk
  · intro as a s s' hp hs ih
    refine hs.forall_workers hp.ordered (P := fun _ _ k => k.HasBegun) ?_ ?_ ?_ ih
    · exact fun _ _ h => h
    · exact fun message _ _ => ⟨List.cons_ne_nil _ _, fun _ => rfl⟩
    · exact fun _ hstep h => hstep.hasBegun h

/-- What a step does to the session of a worker.  While the worker is the current one, its session
accepts what is sent, and ends by what discards the queue; after that, the worker winds up. -/
lemma Step.session_of_worker (hs : Step kind s a s') (ho : s.Ordered) {w : Nat} {k : Worker}
    (hk : s.workers[w]? = some k) : ∃ k', s'.workers[w]? = some k' ∧
      (s.transport.worker = some w → k'.accepted = k.accepted ++ a.sent?.toList ∧
        (s'.transport.worker = some w ∧ ¬ a.Discards s.transport ∨
          s'.transport.worker ≠ some w ∧ a.Discards s.transport ∧ k'.popped = k.popped)) ∧
      (s.transport.worker ≠ some w → k.WindsUp k' ∧ s'.transport.worker ≠ some w) := by
  have hsame : k.WindsUp k := .refl k
  rcases hs.worker_cases ho with ⟨i, k₁, k₁', hk₁, hstep, hworkers⟩ |
    ⟨message, rfl, hw, ht, hworkers⟩ | ⟨rfl, hw, ht, hworkers⟩ | ⟨ha, ht, hworkers⟩
  · by_cases hi : w = i
    · subst hi
      obtain rfl := Option.some.inj (hk.symm.trans hk₁)
      have hlt : w < s.workers.length := (List.getElem?_eq_some_iff.1 hk).1
      refine ⟨k₁', by simp [hworkers, hlt], ?_, ?_⟩
      · exact hstep.of_current
      · intro hw
        obtain ⟨hwinds, ht⟩ := hstep.windsUp hw
        exact ⟨hwinds, by rwa [ht]⟩
    · have hstate := hstep.eq_or_of_ne hi
      refine ⟨k, by rw [hworkers, List.getElem?_set_ne (Ne.symm hi), hk], ?_, ?_⟩
      · intro hw
        have hne : s.transport.worker ≠ some i :=
          fun hw' => hi (Option.some.inj (hw.symm.trans hw'))
        obtain ⟨hsent, hdiscards⟩ := hstep.of_not_current hne
        have ht : s'.transport = s.transport := hstate.resolve_right fun h => h.1 hw
        rw [hsent, ht]
        exact ⟨(List.append_nil _).symm, Or.inl ⟨hw, hdiscards⟩⟩
      · intro hw
        refine ⟨hsame, ?_⟩
        rcases hstate with ht | ⟨-, hw'⟩
        · rwa [ht]
        · exact hw'
  · have hlt : w < s.workers.length := (List.getElem?_eq_some_iff.1 hk).1
    refine ⟨k, by rw [hworkers, List.getElem?_append_left hlt, hk], ?_, ?_⟩
    · exact fun hw' => nomatch hw.symm.trans hw'
    · intro _
      have hstarted := ho.started
      refine ⟨hsame, ?_⟩
      simp only [ht, Transport.start_worker, ne_eq, Option.some.injEq]
      omega
  · refine ⟨k, by rw [hworkers, hk], ?_, ?_⟩
    · exact fun hw' => nomatch hw.symm.trans hw'
    · intro _
      rw [ht]
      exact ⟨hsame, nofun⟩
  · obtain ⟨hsent, hdiscards⟩ := ha.eq_none
    refine ⟨k, by rw [hworkers, hk], ?_, ?_⟩
    · intro hw
      rw [hsent, ht]
      exact ⟨(List.append_nil _).symm, Or.inl ⟨hw, hdiscards _⟩⟩
    · intro hw
      exact ⟨hsame, by rwa [ht]⟩

/-! ## The history of a message -/

/-- Sent after the actions `before`, the message is number `n` of the session of worker `w`. -/
def JoinsAs (kind : TransportKind) (before : List Action) (message : Octets) (w n : Nat) : Prop :=
  ∃ s k, Path kind {} (before ++ [.send message]) s ∧ s.transport.worker = some w ∧
    s.workers[w]? = some k ∧ k.accepted.length = n + 1 ∧ k.accepted[n]? = some message

/-- The message that was sent after `before`, as number `n` of the session of worker `w`, was in the
queue when one of the actions `after` discarded it. -/
def IsDiscarded (kind : TransportKind) (before : List Action) (message : Octets)
    (after : List Action) (w n : Nat) : Prop :=
  ∃ middle a rest s k, after = middle ++ a :: rest ∧
    Path kind {} (before ++ .send message :: middle) s ∧ a.Discards s.transport ∧
    s.transport.worker = some w ∧ s.workers[w]? = some k ∧ k.popped.length ≤ n ∧
    s.transport.queue[n - k.popped.length]? = some message

/-- None of the actions `after` the message was sent discards the queue. -/
def KeepsQueue (kind : TransportKind) (before : List Action) (message : Octets)
    (after : List Action) : Prop :=
  ∀ middle a rest s, after = middle ++ a :: rest →
    Path kind {} (before ++ .send message :: middle) s → ¬ a.Discards s.transport

variable {before after : List Action} {message : Octets}

lemma Path.unique {s₀ s₁ s₂ : System} {as : List Action} (h₁ : Path kind s₀ as s₁)
    (h₂ : Path kind s₀ as s₂) : s₁ = s₂ := by
  induction h₁ with
  | nil =>
    cases h₂
    rfl
  | cons ha _ ih =>
    cases h₂ with
    | cons hb hbs =>
      obtain rfl := Option.some.inj (ha.symm.trans hb)
      exact ih hbs

/-- The run goes on with an action that does not discard the queue either. -/
lemma KeepsQueue.concat (h : KeepsQueue kind before message after)
    (hs : Path kind {} (before ++ .send message :: after) s) (ha : ¬ a.Discards s.transport) :
    KeepsQueue kind before message (after ++ [a]) := by
  intro middle b rest s₁ hsplit hs₁
  rcases rest.eq_nil_or_concat with rfl | ⟨rest, c, rfl⟩
  · obtain ⟨rfl, hb⟩ := List.append_inj' hsplit rfl
    obtain rfl := List.singleton_inj.1 hb
    rwa [hs₁.unique hs]
  · have hsplit : after ++ [a] = (middle ++ b :: rest) ++ [c] := by simpa using hsplit
    exact h middle b rest s₁ (List.append_inj' hsplit rfl).1 hs₁

/-- A message that is sent comes at the end of the session of the worker that is the current one
after it. -/
lemma Path.exists_joinsAs (h : Path kind {} (before ++ [.send message]) s) :
    ∃ w n k, JoinsAs kind before message w n ∧ s.transport.worker = some w ∧
      s.workers[w]? = some k ∧ k.accepted.drop n = [message] := by
  obtain ⟨s₀, h₀, ha⟩ := path_concat_iff.1 h
  have hstep := step_of_perform? ha
  cases hw : s₀.transport.worker with
  | some w =>
    obtain ⟨k, hk⟩ := h₀.ordered.exists_current hw
    obtain ⟨k', hk', hcurrent, -⟩ := hstep.session_of_worker h₀.ordered hk
    obtain ⟨haccepted, ⟨hw', -⟩ | ⟨-, hdiscards, -⟩⟩ := hcurrent hw
    · have haccepted : k'.accepted = k.accepted ++ [message] := haccepted
      refine ⟨w, k.accepted.length, k', ⟨s, k', h, hw', hk', ?_, ?_⟩, hw', hk', ?_⟩
      · simp [haccepted]
      · simp [haccepted]
      · simp [haccepted]
    · cases hdiscards
  | none =>
    obtain rfl : s = _ := (Option.some.inj (ha.symm.trans (perform?_of_step (.start message hw))))
    have hk : (s₀.workers ++ [({ accepted := [message] } : Worker)])[s₀.transport.started]? =
        some { accepted := [message] } := by
      rw [h₀.ordered.started, List.getElem?_concat_length]
    have hw' := Transport.start_worker s₀.transport kind
    exact ⟨s₀.transport.started, 0, _, ⟨_, _, h, hw', hk, rfl, rfl⟩, hw', hk, rfl⟩

lemma filterMap_sent?_singleton (a : Action) : [a].filterMap Action.sent? = a.sent?.toList := by
  cases h : a.sent? <;> simp [h]

/-- From the action that sends a message on, either its worker is the current one, nothing was
discarded, and the message and those sent after it are at the end of the session; or an action
discarded the queue while the worker was the current one, and the record of what it accepted and
took off the queue is as it was then. -/
lemma Path.follow_message (h : Path kind {} (before ++ .send message :: after) s) :
    ∃ w n k, JoinsAs kind before message w n ∧ s.workers[w]? = some k ∧
      (s.transport.worker = some w ∧
        k.accepted.drop n = message :: after.filterMap Action.sent? ∧
        KeepsQueue kind before message after ∨
      s.transport.worker ≠ some w ∧ ∃ middle a rest s₁ k₁, after = middle ++ a :: rest ∧
        Path kind {} (before ++ .send message :: middle) s₁ ∧ a.Discards s₁.transport ∧
        s₁.transport.worker = some w ∧ s₁.workers[w]? = some k₁ ∧
        k₁.accepted[n]? = some message ∧ k.accepted = k₁.accepted ∧ k.popped = k₁.popped) := by
  induction after using List.reverseRecOn generalizing s with
  | nil =>
    obtain ⟨w, n, k, hjoins, hw, hk, hdrop⟩ := h.exists_joinsAs
    refine ⟨w, n, k, hjoins, hk, Or.inl ⟨hw, hdrop, ?_⟩⟩
    intro middle a rest s₁ hsplit
    cases middle <;> cases hsplit
  | append_singleton after a ih =>
    have hrun : before ++ .send message :: (after ++ [a]) =
        (before ++ .send message :: after) ++ [a] := by simp
    rw [hrun] at h
    obtain ⟨s₀, h₀, ha⟩ := path_concat_iff.1 h
    obtain ⟨w, n, k, hjoins, hk, hcases⟩ := ih h₀
    obtain ⟨k', hk', hcurrent, hended⟩ :=
      (step_of_perform? ha).session_of_worker h₀.ordered hk
    refine ⟨w, n, k', hjoins, hk', ?_⟩
    rcases hcases with ⟨hw, hdrop, hkeeps⟩ | ⟨hw, middle, b, rest, s₁, k₁, rfl, hs₁⟩
    · have hmessage : k.accepted[n]? = some message := by
        rw [← List.head?_drop, hdrop]
        rfl
      obtain ⟨haccepted, ⟨hw', hdiscards⟩ | ⟨hw', hdiscards, hpopped⟩⟩ := hcurrent hw
      · refine Or.inl ⟨hw', ?_, hkeeps.concat h₀ hdiscards⟩
        have hle : n ≤ k.accepted.length := Nat.le_of_lt (List.getElem?_eq_some_iff.1 hmessage).1
        rw [haccepted, List.drop_append_of_le_length hle, hdrop, List.filterMap_append,
          filterMap_sent?_singleton, List.cons_append]
      · rw [hdiscards.sent?_eq_none, Option.toList_none, List.append_nil] at haccepted
        exact Or.inr ⟨hw', after, a, [], s₀, k, rfl, h₀, hdiscards, hw, hk, hmessage, haccepted,
          hpopped⟩
    · obtain ⟨hwinds, hw'⟩ := hended hw
      obtain ⟨hpath, hb, hcur, hk₁, hmessage, hacc, hpop⟩ := hs₁
      exact Or.inr ⟨hw', middle, b, rest ++ [a], s₁, k₁, by simp, hpath, hb, hcur, hk₁, hmessage,
        hwinds.accepted.trans hacc, hwinds.popped.trans hpop⟩

/-! ## An idle transport -/

/-- While there is no message in the queue, the current worker has written and taken off the queue
all that its session accepted, and it looks for more messages or waits for them. -/
lemma Path.written_of_queue_eq_nil {as : List Action} (h : Path kind {} as s)
    (hq : s.transport.queue = []) {w : Nat} {k : Worker} (hk : s.workers[w]? = some k)
    (hw : s.transport.worker = some w) :
    (k.task = .ready ∨ k.task = .idle) ∧ k.fetched = k.accepted ∧ k.written = k.accepted ∧
      k.popped = k.accepted := by
  have hfollows := h.ordered.follows w k hk
  have hbegun := h.hasBegun w k hk
  have hhead := hfollows.head hw
  rw [hq] at hhead
  have hpopped : k.popped = k.accepted := by rw [hfollows.accepted hw, hq, List.append_nil]
  have hdone : k.task ∈ [Task.opening, .ready, .idle] →
      k.fetched = k.accepted ∧ k.written = k.accepted := by
    intro ht
    obtain ⟨hwritten, hfetched⟩ := hfollows.inOrder.of_task ht
    exact ⟨hfetched.trans hpopped, hwritten.trans hpopped⟩
  cases ht : k.task with
  | opening =>
    have hfetched := (hdone (by simp [ht])).1
    exact absurd (hfetched.symm.trans (hbegun.fetched ht)) hbegun.accepted
  | ready => exact ⟨Or.inl rfl, (hdone (by simp [ht])).1, (hdone (by simp [ht])).2, hpopped⟩
  | idle => exact ⟨Or.inr rfl, (hdone (by simp [ht])).1, (hdone (by simp [ht])).2, hpopped⟩
  | writing message => exact nomatch hhead message (by rw [ht]; rfl)
  | wrote message => exact nomatch hhead message (by rw [ht]; rfl)
  | ended => exact absurd ht ((h.attends w k hk).notEnded hw)

/-- What became of a message that was sent after `before`, when `after` has led to `s`.  It was
written and taken off the queue, or it was discarded; and if nothing was discarded since, it and the
messages sent after it are the last that the current worker has written. -/
def IsSettled (kind : TransportKind) (before : List Action) (message : Octets)
    (after : List Action) (s : System) : Prop :=
  ∃ w n k, JoinsAs kind before message w n ∧ s.workers[w]? = some k ∧
    (k.popped[n]? = some message ∧ k.written[n]? = some message ∨
      IsDiscarded kind before message after w n) ∧
    (KeepsQueue kind before message after →
      s.transport.worker = some w ∧ k.written.drop n = message :: after.filterMap Action.sent?)

/-- A worker has written what it took off the queue. -/
lemma Ordered.popped_prefix_written (h : s.Ordered) {w : Nat} {k : Worker}
    (hk : s.workers[w]? = some k) : k.popped <+: k.written := by
  rcases (h.follows w k hk).inOrder.isSettled with ⟨hwritten, -⟩ |
    ⟨message, hfetched, hwritten | hwritten⟩
  · exact hwritten ▸ List.prefix_rfl
  · exact hwritten ▸ List.prefix_rfl
  · rw [hwritten, hfetched]
    exact List.prefix_append _ _

/-- When there is no message in the queue, every message that was sent is settled. -/
lemma Path.isSettled (h : Path kind {} (before ++ .send message :: after) s)
    (hq : s.transport.queue = []) : IsSettled kind before message after s := by
  obtain ⟨w, n, k, hjoins, hk, ⟨hw, hdrop, -⟩ |
    ⟨hw, middle, a, rest, s₁, k₁, rfl, hs₁, ha, hw₁, hk₁, hmessage, haccepted, hpopped⟩⟩ :=
      h.follow_message
  · obtain ⟨-, -, hwritten, hpopped⟩ := h.written_of_queue_eq_nil hq hk hw
    have hmessage : k.accepted[n]? = some message := by
      rw [← List.head?_drop, hdrop]
      rfl
    refine ⟨w, n, k, hjoins, hk, Or.inl ⟨?_, ?_⟩, fun _ => ⟨hw, ?_⟩⟩
    · rwa [hpopped]
    · rwa [hwritten]
    · rwa [hwritten]
  · refine ⟨w, n, k, hjoins, hk, ?_, fun hkeeps => absurd ha (hkeeps _ _ _ _ rfl hs₁)⟩
    -- What the session had accepted by then was taken off the queue or is in it.
    have hqueue : k₁.accepted = k₁.popped ++ s₁.transport.queue :=
      (hs₁.ordered.follows w k₁ hk₁).accepted hw₁
    by_cases hn : n < k₁.popped.length
    · have hpop : k.popped[n]? = some message := by
        rw [hpopped, ← List.getElem?_append_left hn, ← hqueue, hmessage]
      obtain ⟨more, hwritten⟩ := h.ordered.popped_prefix_written hk
      refine Or.inl ⟨hpop, ?_⟩
      rw [← hwritten, List.getElem?_append_left (by rwa [hpopped]), hpop]
    · have hle : k₁.popped.length ≤ n := Nat.le_of_not_lt hn
      refine Or.inr ⟨middle, a, rest, s₁, k₁, rfl, hs₁, ha, hw₁, hk₁, hle, ?_⟩
      rw [← List.getElem?_append_right hle, ← hqueue, hmessage]

/-! ## Returning from a wait -/

/-- The wait `i` returns in the step from `s` to `s'`, and tells whether the transport is idle. -/
def Returns (s s' : System) (i : Nat) (drained : Bool) : Prop :=
  ∃ d, s.waits[i]? = some d ∧ (∀ b, d.phase ≠ .returned b) ∧
    s'.waits[i]? = some { d with phase := .returned drained }

lemma getElem?_setWait {i j : Nat} {phase : WaitPhase} {d : Wait} (hd : s.waits[i]? = some d) :
    (s.setWait j phase).waits[i]? = some (if j = i then { d with phase } else d) := by
  rw [System.setWait, List.getElem?_modify, hd]
  split <;> rfl

/-- A wait returns because it looks whether the transport is idle, or because it is bounded and
gives up; and it tells what is so at that instant. -/
lemma Step.of_returns {i : Nat} {drained : Bool} (hs : Step kind s a s')
    (h : Returns s s' i drained) : s'.transport = s.transport ∧
      s.transport.isBusy = !drained ∧
      (drained = false → ∃ d, s.waits[i]? = some d ∧ d.isBounded = true) := by
  obtain ⟨d, hd, hphase, hd'⟩ := h
  have hne : d ≠ { d with phase := .returned drained } :=
    fun heq => hphase drained (congrArg Wait.phase heq)
  have hsame : s'.waits = s.waits → False := by
    intro hwaits
    rw [hwaits, hd] at hd'
    exact hne (Option.some.inj hd')
  cases hs with
  | await isBounded =>
    have hlt : i < s.waits.length := (List.getElem?_eq_some_iff.1 hd).1
    rw [List.getElem?_append_left hlt, hd] at hd'
    exact absurd (Option.some.inj hd') hne
  | @check j e he hp =>
    rw [getElem?_setWait hd, Option.some.injEq] at hd'
    split at hd'
    case isTrue =>
      have hreturned := congrArg Wait.phase hd'
      cases hbusy : s.transport.isBusy with
      | true => simp [hbusy] at hreturned
      | false =>
        obtain rfl : true = drained := by simpa [hbusy] using hreturned
        exact ⟨rfl, rfl, nofun⟩
    case isFalse => exact absurd hd' hne
  | @giveUp j e he hb hp =>
    rw [getElem?_setWait hd, Option.some.injEq] at hd'
    split at hd'
    case isTrue hj =>
      subst hj
      obtain rfl := Option.some.inj (hd.symm.trans he)
      have hreturned : (!s.transport.isBusy) = drained := by
        simpa using congrArg Wait.phase hd'
      exact ⟨rfl, by rw [← hreturned, Bool.not_not], fun _ => ⟨d, hd, hb⟩⟩
    case isFalse => exact absurd hd' hne
  | notice hn =>
    rw [System.notice, List.getElem?_map, hd, Option.map_some, Option.some.injEq] at hd'
    split at hd'
    · exact nomatch congrArg Wait.phase hd'
    · exact absurd hd' hne
  | queue | start | close | closeAgain | park | wake | stop | opened | openFailed | fetch
  | fetchNothing | write | writeFailed | complete | leaveWaiting | leave =>
    exact absurd rfl hsame

/-- As long as nothing is sent, no worker is started, and nobody has to wait. -/
lemma Path.of_sent_eq_nil {as : List Action} (h : Path kind {} as s)
    (hsent : as.filterMap Action.sent? = []) : s.transport.worker = none ∧ s.workers = [] ∧
      ∀ d ∈ s.waits, d.phase = .entering ∨ d.phase = .returned true := by
  revert hsent
  refine h.induction (motive := fun as s => as.filterMap Action.sent? = [] →
    s.transport.worker = none ∧ s.workers = [] ∧
      ∀ d ∈ s.waits, d.phase = .entering ∨ d.phase = .returned true) ?_ ?_
  · exact fun _ => ⟨rfl, rfl, nofun⟩
  · intro as a s s' hp hs ih hsent
    rw [List.filterMap_append, List.append_eq_nil_iff, filterMap_sent?_singleton] at hsent
    obtain ⟨hw, hworkers, hwaits⟩ := ih hsent.1
    have hbusy : s.transport.isBusy = false := by
      have hiff := hp.isConsistent.transport.isBusy_iff
      rw [(hp.isConsistent.transport.stopped hw).1] at hiff
      simpa using hiff
    have hreturn {i : Nat} : ∀ d ∈ (s.setWait i (.returned true)).waits,
        d.phase = .entering ∨ d.phase = .returned true :=
      forall_mem_setWait (P := fun p => p = .entering ∨ p = .returned true) hwaits (Or.inr rfl)
    have hnone {w : Nat} {k : Worker} : s.workers[w]? ≠ some k := by simp [hworkers]
    cases hs with
    | queue message hw' => exact nomatch hw.symm.trans hw'
    | start => cases hsent.2
    | close hw' => exact nomatch hw.symm.trans hw'
    | closeAgain => exact ⟨rfl, hworkers, hwaits⟩
    | await isBounded =>
      refine ⟨hw, hworkers, List.forall_mem_append.2 ⟨hwaits, ?_⟩⟩
      exact List.forall_mem_singleton.2 (Or.inl rfl)
    | check | giveUp =>
      rw [hbusy]
      exact ⟨hw, hworkers, hreturn⟩
    | notice =>
      refine ⟨hw, hworkers, List.forall_mem_map.2 ?_⟩
      intro d hd
      rw [if_neg]
      · exact hwaits d hd
      · rcases hwaits d hd with hp | hp <;> simp [hp]
    | park hk | wake hk | stop hk | opened hk | openFailed hk | fetch hk | fetchNothing hk
    | write hk | writeFailed hk | complete hk | leaveWaiting hk | leave hk =>
      exact absurd hk hnone

/-- In any run of callers and workers, a wait that returns and tells that the transport is idle does
so while it is: the queue is empty, nothing is written or connected, and every message that was sent
before is settled.  Only a bounded wait tells otherwise, and only while the transport is busy.  If
nothing was sent, nobody is parked, and whoever begins to wait returns at once. -/
theorem Path.drain_settles {as : List Action} (h : Path kind {} as s) :
    (∀ a s' i, s.perform? kind a = some s' → Returns s s' i true →
      s'.transport = s.transport ∧ s.transport.queue = [] ∧ s.transport.isWriting = false ∧
        s.transport.isConnecting = false ∧
        (∀ w k, s.workers[w]? = some k → s.transport.worker = some w →
          k.task = .ready ∨ k.task = .idle) ∧
        ∀ before message after, as = before ++ .send message :: after →
          IsSettled kind before message after s) ∧
    (∀ a s' i, s.perform? kind a = some s' → Returns s s' i false →
      s.transport.isBusy = true ∧ ∃ d, s.waits[i]? = some d ∧ d.isBounded = true) ∧
    (as.filterMap Action.sent? = [] → ∀ i d, s.waits[i]? = some d → d.phase = .returned true ∨
      d.phase = .entering ∧ s.perform? kind (.check i) = some (s.setWait i (.returned true))) := by
  have hconsistent := h.isConsistent.transport
  refine ⟨?_, ?_, ?_⟩
  · intro a s' i ha hreturns
    obtain ⟨ht, hbusy, -⟩ := (step_of_perform? ha).of_returns hreturns
    have hidle : s.transport.queue = [] ∧ s.transport.isWriting = false ∧
        s.transport.isConnecting = false := by
      simpa [Transport.isBusy, and_assoc] using hbusy
    refine ⟨ht, hidle.1, hidle.2.1, hidle.2.2, ?_, ?_⟩
    · exact fun w k hk hw => (h.written_of_queue_eq_nil hidle.1 hk hw).1
    · rintro before message after rfl
      exact h.isSettled hidle.1
  · intro a s' i ha hreturns
    obtain ⟨-, hbusy, hbounded⟩ := (step_of_perform? ha).of_returns hreturns
    exact ⟨hbusy, hbounded rfl⟩
  · intro hsent i d hd
    obtain ⟨hw, -, hwaits⟩ := h.of_sent_eq_nil hsent
    have hbusy : s.transport.isBusy = false := by
      obtain ⟨hq, hwriting, hconnecting⟩ := hconsistent.stopped hw
      simp [Transport.isBusy, hq, hwriting, hconnecting]
    rcases hwaits d (List.mem_of_getElem? hd) with hp | hp
    · have hcheck : s.perform? kind (.check i) = _ := perform?_of_step (.check hd (Or.inl hp))
      rw [hbusy] at hcheck
      exact Or.inr ⟨hp, hcheck⟩
    · exact Or.inl hp

/-- What happens after `[1]` is sent: it is discarded while it is written, and `[2]` is written
while a caller waits. -/
def discardedOnce : List Action :=
  [.opened 0, .fetch 0, .close, .send [2], .opened 1, .await false, .check 0, .fetch 1, .write 1,
    .complete 1, .notice]

theorem drain_settles_discardedOnce : ∃ s s' : System,
    Path .stream {} (.send [1] :: discardedOnce) s ∧ s.perform? .stream (.check 0) = some s' ∧
      Returns s s' 0 true ∧ s.transport.queue = [] ∧
      IsSettled .stream [] [1] discardedOnce s ∧
      IsSettled .stream (.send [1] :: discardedOnce.take 3) [2] (discardedOnce.drop 4) s := by
  have h : ∃ s s', (Action.send [1] :: discardedOnce).foldlM
      (fun s a => perform? s .stream a) {} = some s ∧
      s.perform? .stream (.check 0) = some s' ∧ s.waits[0]? = some ⟨false, .woken⟩ ∧
      s'.waits[0]? = some ⟨false, .returned true⟩ := ⟨_, _, rfl, rfl, rfl, rfl⟩
  obtain ⟨s, s', hs, ha, hd, hd'⟩ := h
  have hreturns : Returns s s' 0 true := ⟨_, hd, nofun, hd'⟩
  obtain ⟨-, hq, -, -, -, hsettled⟩ := (Path.drain_settles (path_of_foldlM hs)).1 _ _ _ ha hreturns
  exact ⟨s, s', path_of_foldlM hs, ha, hreturns, hq, hsettled [] [1] _ rfl, hsettled _ [2] _ rfl⟩

end System

end OscRemote
