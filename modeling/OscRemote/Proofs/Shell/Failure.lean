import OscRemote.Proofs.Client.Lifetime
import OscRemote.Proofs.Shell.Reading
import OscRemote.Proofs.Shell.Session

/-!
# Lines that fail

A line can fail in two ways.  If it cannot be read, nothing of it is done.  If it can, its verbs are
carried out up to the first that fails (`Verb.failure?`), and what those before it have done stays.

Reading a line reads the words of every verb but those of `send` behind the address: of these it is
only found when the verb is carried out whether they spell arguments.  So a line may have a fault in
its words and an effect nonetheless; then `send` is the verb that fails, and it is the last of its
line.
-/

namespace OscRemote

/-! ## Verbs that fail -/

namespace Verb

/-- Why a verb fails, if it does: its words do not spell what it takes, or its message has no
encoding. -/
def failure? (config : Config) (v : Verb) : Option CommandError :=
  match v.operation with
  | .error cause => some cause
  | .ok op? => do
    let op ← op?
    let (_, m) ← op.message? config
    match m.encode with
    | .ok _ => none
    | .error cause => some (.client (.encoding cause))

variable {c : Client} {v : Verb} {cause : CommandError}

/-- A verb fails for what is wrong with its words, or because the client refuses its message. -/
lemma failure?_eq_some_iff (config : Config) : v.failure? config = some cause ↔
    v.operation = .error cause ∨ ∃ op kind m e, v.operation = .ok (some op) ∧
      op.message? config = some (kind, m) ∧ m.encode = .error e ∧
      cause = .client (.encoding e) := by
  unfold failure?
  cases v.operation with
  | error cause' => simp
  | ok op? =>
    rcases op? with _ | op
    · simp
    · rcases hmessage : op.message? config with _ | ⟨kind, m⟩
      · simp [hmessage]
      · cases hencode : m.encode with
        | ok message => simp [hmessage, hencode]
        | error e => simp [hmessage, hencode, eq_comm]

lemma failure?_eq_none_iff (config : Config) :
    v.failure? config = none ↔ v.succeeds config = true := by
  unfold failure? succeeds
  cases v.operation with
  | error cause => simp
  | ok op? =>
    rcases op? with _ | op
    · simp
    · rcases hmessage : op.message? config with _ | ⟨kind, m⟩
      · simp [hmessage, Operation.isRefused]
      · cases hencode : m.encode <;> simp [hmessage, hencode, Operation.isRefused, Except.toOption]

lemma perform_of_failure? (h : v.failure? c.config = some cause) : v.perform c = .error cause := by
  obtain h | ⟨op, kind, m, e, hop, hmessage, hencode, rfl⟩ := (failure?_eq_some_iff _).1 h
  · exact perform_of_operation_error c h
  · have hv : v ≠ .quit := by
      rintro rfl
      cases hop
    obtain ⟨report, hperform⟩ := perform_of_operation c hv hop
    have herror := (c.perform_eq_error_iff op _).2 ⟨kind, m, e, hmessage, hencode, rfl⟩
    rw [hperform]
    dsimp only
    rw [Client.performReporting, herror]
    rfl

/-! ## Rows of verbs that are read -/

/-- A verb in whose words a fault is found only when it is carried out is the last of its line. -/
lemma eq_send_of_operation_error {line : String} {vs us : List Verb} {v : Verb}
    {cause : CommandError} (hread : readLine line = .ok (vs ++ v :: us))
    (h : v.operation = .error cause) :
    us = [] ∧ ∃ kind address tags values, v = .send kind address tags values ∧
      readArguments (tagsOf tags) values = .error cause := by
  cases v with
  | send kind address tags values =>
    refine ⟨?_, kind, address, tags, values, rfl, ?_⟩
    · obtain ⟨before, -, hvs, hbefore, -⟩ := (extends_of_readWords hread).of_send_mem
        (List.mem_append_right vs (List.mem_cons_self ..))
      -- Were there a verb behind it, this `send` would be one of those before the last.
      by_contra hus
      rw [← List.dropLast_append_getLast hus, ← List.cons_append, ← List.append_assoc] at hvs
      obtain ⟨rfl, -⟩ := List.append_inj' hvs rfl
      cases hbefore _ (List.mem_append_right vs (List.mem_cons_self ..))
    · rw [operation] at h
      cases hargs : readArguments (tagsOf tags) values with
      | error cause' =>
        rw [hargs] at h
        rw [← Except.error.inj h]
      | ok args =>
        rw [hargs] at h
        cases h
  | help | quit | load | unload | mute | systemMute | volume | systemVolume | bundleStart
  | bundleEnd | drain => cases h

end Verb

/-! ## Lines -/

lemma LineEnd.after_eq_failed_iff (report : String) (ending : LineEnd) (cause : CommandError) :
    ending.after report = .failed cause ↔ ending = .failed cause := by
  cases ending <;> simp [after]

namespace Client

variable {c : Client} {cause : CommandError}

/-- A row of verbs fails by the first of them that does not go on, unless that leaves the shell. -/
lemma runVerbs_eq_failed_iff (c : Client) (vs : List Verb) :
    (c.runVerbs vs).ending = .failed cause ↔
      (vs.dropWhile (·.goesOn c.config)).head?.bind (·.failure? c.config) = some cause := by
  induction vs generalizing c with
  | nil => simp [runVerbs]
  | cons v vs ih =>
    by_cases hgoesOn : v.goesOn c.config = true
    · obtain ⟨outcome, hconfig, -, hrun⟩ := runVerbs_of_goesOn hgoesOn vs
      have hrest := ih outcome.client
      rw [hconfig] at hrest
      rw [hrun, List.dropWhile_cons_of_pos hgoesOn]
      exact (LineEnd.after_eq_failed_iff _ _ _).trans hrest
    · rw [List.dropWhile_cons_of_neg hgoesOn, List.head?_cons, Option.bind_some]
      by_cases hv : v = .quit
      · subst hv
        exact iff_of_false (by rintro ⟨⟩) (by rintro ⟨⟩)
      · cases hfailure : v.failure? c.config with
        | none =>
          have hsucceeds := (Verb.failure?_eq_none_iff c.config).1 hfailure
          exact absurd (by simp [Verb.goesOn, hv, hsucceeds]) hgoesOn
        | some cause' =>
          rw [runVerbs_cons hv, Verb.perform_of_failure? hfailure]
          simp

/-- Of a row of verbs that fails, those before the one that fails have done what they stand for. -/
lemma runVerbs_of_failure? {vs us : List Verb} {v : Verb}
    (hvs : ∀ u ∈ vs, u.goesOn c.config = true) (hv : v.failure? c.config = some cause) :
    c.runVerbs (vs ++ v :: us) =
      { client := (c.performAll (vs.flatMap Verb.operations)).1
        requests := (c.performAll (vs.flatMap Verb.operations)).2
        ending := .failed cause } := by
  have hgoesOn : ¬ v.goesOn c.config = true := by
    simp [Verb.goesOn, ← Verb.failure?_eq_none_iff, hv]
  refine runVerbs_of_not_goesOn hvs hgoesOn us ((c.runVerbs_eq_failed_iff _).2 ?_)
  rw [List.dropWhile_append_of_pos hvs, List.dropWhile_cons_of_neg hgoesOn]
  exact hv

/-- A row of verbs that fails has one that does, and those before it go on. -/
lemma exists_of_runVerbs_eq_failed {vs : List Verb} (h : (c.runVerbs vs).ending = .failed cause) :
    ∃ before v after, vs = before ++ v :: after ∧ (∀ u ∈ before, u.goesOn c.config = true) ∧
      v.failure? c.config = some cause := by
  obtain ⟨v, hhead, hfailure⟩ := Option.bind_eq_some_iff.1 ((c.runVerbs_eq_failed_iff vs).1 h)
  obtain ⟨after, hafter⟩ := List.head?_eq_some_iff.1 hhead
  refine ⟨vs.takeWhile (·.goesOn c.config), v, after, ?_, fun u hu => ?_, hfailure⟩
  · rw [← hafter, List.takeWhile_append_dropWhile]
  · exact List.all_eq_true.1 List.all_takeWhile u hu

/-- A line that cannot be read leaves the client as it is and asks for nothing.  Otherwise the line
fails exactly if one of its verbs does and those before it go on; then these have done what they
stand for, and nothing else was done.  The verb that fails has a message that has no encoding, or
it is a `send` at the end of the line, whose words do not spell arguments. -/
theorem failing_line_stops (c : Client) (line : String) :
    (∀ fault, Verb.readLine line = .error fault →
      c.runLine line = { client := c, requests := [], ending := .failed (.input fault) }) ∧
    (∀ before v after cause, Verb.readLine line = .ok (before ++ v :: after) →
      (∀ u ∈ before, u.goesOn c.config = true) → v.failure? c.config = some cause →
      c.runLine line =
        { client := (c.performAll (before.flatMap Verb.operations)).1
          requests := (c.performAll (before.flatMap Verb.operations)).2
          ending := .failed cause } ∧
      ((∃ e, cause = .client (.encoding e)) ∨
        after = [] ∧ ∃ kind address tags values, v = .send kind address tags values ∧
          readArguments (tagsOf tags) values = .error cause)) ∧
    ∀ cause, (c.runLine line).ending = .failed cause →
      (∃ fault, Verb.readLine line = .error fault ∧ cause = .input fault) ∨
      ∃ before v after, Verb.readLine line = .ok (before ++ v :: after) ∧
        (∀ u ∈ before, u.goesOn c.config = true) ∧ v.failure? c.config = some cause := by
  refine ⟨?_, ?_, ?_⟩
  · intro fault hread
    rw [runLine, hread]
  · intro before v after cause hread hbefore hv
    refine ⟨?_, ?_⟩
    · rw [runLine, hread]
      exact runVerbs_of_failure? hbefore hv
    · obtain hwords | ⟨-, -, -, e, -, -, -, rfl⟩ := (Verb.failure?_eq_some_iff c.config).1 hv
      · exact Or.inr (Verb.eq_send_of_operation_error hread hwords)
      · exact Or.inl ⟨e, rfl⟩
  · intro cause h
    rw [runLine] at h
    cases hread : Verb.readLine line with
    | error fault =>
      rw [hread] at h
      exact Or.inl ⟨fault, rfl, (LineEnd.failed.inj h).symm⟩
    | ok vs =>
      rw [hread] at h
      obtain ⟨before, v, after, rfl, hbefore, hv⟩ := exists_of_runVerbs_eq_failed h
      exact Or.inr ⟨before, v, after, rfl, hbefore, hv⟩

/-- A message goes into a bundle before a value too many is found. -/
theorem failing_line_stops_in_bundle :
    (datagramClient.runLine "bundle start load send udp /x i 3 4").ending =
      .failed (.input (.unexpectedValue "4")) ∧
    (datagramClient.runLine "bundle start load send udp /x i 3 4").client =
      (datagramClient.performAll [.startBundle, .load]).1 ∧
    datagramClient.runLine "bundle start load send udp" =
      { client := datagramClient, requests := [],
        ending := .failed (.input (.missingArgument "send" "<tcp|udp> <addr> [tags] [values..]")) }
    := by
  have hread : Verb.readLine "bundle start load send udp /x i 3 4" =
      .ok ([.bundleStart, .load] ++ .send .datagram "/x" "i" ["3", "4"] :: []) := by
    decide +kernel
  have hunread : Verb.readLine "bundle start load send udp" =
      .error (.missingArgument "send" "<tcp|udp> <addr> [tags] [values..]") := by decide +kernel
  obtain ⟨-, hstops, -⟩ :=
    datagramClient.failing_line_stops "bundle start load send udp /x i 3 4"
  obtain ⟨hreads, -, -⟩ := datagramClient.failing_line_stops "bundle start load send udp"
  obtain ⟨hline, -⟩ := hstops _ _ _ (.input (.unexpectedValue "4")) hread (by decide +kernel)
    (by decide +kernel)
  rw [hline]
  exact ⟨rfl, rfl, hreads _ hunread⟩

/-- A line may have a fault in its words and an effect: here the project is loaded before a value is
missed. -/
theorem faulty_line_has_effect :
    ¬ ∀ (c : Client) (line : String) (fault : InputError),
      (c.runLine line).ending = .failed (.input fault) →
      (c.runLine line).client = c ∧ (c.runLine line).requests = [] := by
  intro h
  have hfails : (streamClient.runLine "load send tcp /x i").ending =
      .failed (.input (.missingValue 'i')) := by decide +kernel
  have hrequests : (streamClient.runLine "load send tcp /x i").requests.length = 1 := by
    decide +kernel
  rw [(h _ _ _ hfails).2] at hrequests
  cases hrequests

end Client

end OscRemote
