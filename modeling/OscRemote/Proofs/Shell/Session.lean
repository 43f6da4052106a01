import OscRemote.Proofs.Client.Closing
import OscRemote.Shell.Session

/-!
# What a session of the shell does to a client

Whether a verb can be carried out is a matter of its words and of the configuration only, and not of
what was done before: it fails if the arguments of a message cannot be read, or if a message has no
encoding.  So the lines alone say what a session asks of a client (`Shell.operations`): of each line
that is read, and has no fault, the operations of its verbs up to the first that fails or leaves the
shell; and lines are read until one of them leaves it.

A session performs these operations and then closes the client.
-/

namespace OscRemote

/-! ## Verbs -/

/-- Whether an operation has a message that cannot be encoded. -/
def Operation.isRefused (config : Config) (op : Operation) : Bool :=
  match op.message? config with
  | some (_, m) => m.encode.toOption.isNone
  | none => false

namespace Verb

/-- The operation of a verb; one that only shows something or leaves the shell has none. -/
def operation : Verb → Except CommandError (Option Operation)
  | help | quit => pure none
  | load => pure (some .load)
  | unload => pure (some .unload)
  | mute on => pure (some (.mute on))
  | systemMute on => pure (some (.systemMute on))
  | volume level => pure (some (.volume level))
  | systemVolume level => pure (some (.systemVolume level))
  | send kind address tags values =>
    (readArguments (tagsOf tags) values).map fun args => some (.send kind address args)
  | bundleStart => pure (some .startBundle)
  | bundleEnd => pure (some .endBundle)
  | drain => pure (some .drain)

/-- The operations that a verb stands for: one, or none. -/
def operations (v : Verb) : List Operation :=
  match v.operation with
  | .ok op? => op?.toList
  | .error _ => []

/-- Whether a verb is carried out without a failure. -/
def succeeds (config : Config) (v : Verb) : Bool :=
  match v.operation with
  | .ok op? => op?.all fun op => !op.isRefused config
  | .error _ => false

/-- Whether the verb behind this one is carried out too: this one does not leave the shell, and does
not fail. -/
def goesOn (config : Config) (v : Verb) : Bool := v != .quit && v.succeeds config

end Verb

namespace Shell

/-- The verbs of a line; one that is blank, or has a fault anywhere, has none. -/
def verbs (line : String) : List Verb := (Verb.readLine line).toOption.getD []

/-- What a line asks of a client. -/
def lineOperations (config : Config) (line : String) : List Operation :=
  ((verbs line).takeWhile (·.goesOn config)).flatMap Verb.operations

/-- Whether a line leaves the shell. -/
def leaves (config : Config) (line : String) : Bool :=
  ((verbs line).dropWhile (·.goesOn config)).head? = some .quit

/-- The lines that are read: up to the first that leaves the shell. -/
def linesRead (config : Config) : List String → List String
  | [] => []
  | line :: lines => line :: if leaves config line then [] else linesRead config lines

/-- What the lines of a session ask of a client. -/
def operations (config : Config) (lines : List String) : List Operation :=
  (linesRead config lines).flatMap (lineOperations config)

end Shell

/-! ## One verb -/

/-- An operation is refused exactly if performing it fails. -/
lemma Operation.isRefused_iff {c : Client} {op : Operation} :
    op.isRefused c.config = true ↔ ∃ e, c.perform op = .error e := by
  simp only [Client.perform_eq_error_iff]
  unfold isRefused
  constructor
  · intro h
    split at h
    case h_1 kind m hmessage =>
      cases hencode : m.encode with
      | ok packet =>
        rw [hencode] at h
        cases h
      | error cause => exact ⟨_, kind, m, cause, hmessage, hencode, rfl⟩
    case h_2 => cases h
  · rintro ⟨e, kind, m, cause, hmessage, hencode, rfl⟩
    rw [hmessage]
    dsimp only
    rw [hencode]
    rfl

namespace Client

variable {c : Client}

lemma performReporting_of_isRefused {op : Operation} (h : op.isRefused c.config = true)
    (report : String) : ∃ cause, c.performReporting op report = .error cause := by
  obtain ⟨e, he⟩ := Operation.isRefused_iff.1 h
  exact ⟨.client e, by rw [performReporting, he]; rfl⟩

lemma performReporting_of_not_isRefused {op : Operation} (h : op.isRefused c.config = false)
    (report : String) : ∃ outcome, c.performReporting op report = .ok outcome ∧
      c.performAll [op] = (outcome.client, outcome.requests) := by
  cases hperform : c.perform op with
  | error e =>
    have hrefused := Operation.isRefused_iff.2 ⟨e, hperform⟩
    cases h.symm.trans hrefused
  | ok result =>
    refine ⟨⟨result.1, result.2, report⟩, by rw [performReporting, hperform]; rfl, ?_⟩
    rw [performAll_cons, attempt, hperform]
    exact Prod.ext rfl (List.append_nil _)

end Client

namespace Verb

variable {c : Client} {v : Verb}

lemma perform_send (c : Client) (kind : TransportKind) (address tags : String)
    (values : List String) : (send kind address tags values).perform c =
      (readArguments (tagsOf tags) values).bind fun args =>
        c.performReporting (.send kind address args) ("Sent " ++ c.baseAddress ++ address ++ " (" ++
          toString args.length ++ " argument(s))") := rfl

/-- A verb is carried out by performing its operation, if it has one. -/
lemma perform_of_operation {op? : Option Operation} (c : Client) (hv : v ≠ .quit)
    (h : v.operation = .ok op?) :
    ∃ report, v.perform c =
      match op? with
      | some op => c.performReporting op report
      | none => .ok { client := c, requests := [], report } := by
  cases v with
  | quit => exact absurd rfl hv
  | send kind address tags values =>
    rw [operation] at h
    rw [perform_send]
    cases hargs : readArguments (tagsOf tags) values with
    | error cause =>
      rw [hargs] at h
      cases h
    | ok args =>
      rw [hargs] at h
      obtain rfl := Except.ok.inj h
      exact ⟨_, rfl⟩
  | help | load | unload | mute | systemMute | volume | systemVolume | bundleStart | bundleEnd
  | drain =>
    obtain rfl := Except.ok.inj h
    exact ⟨_, rfl⟩

/-- A verb whose words are not what it takes fails. -/
lemma perform_of_operation_error {cause : CommandError} (c : Client)
    (h : v.operation = .error cause) : v.perform c = .error cause := by
  cases v with
  | send kind address tags values =>
    rw [operation] at h
    rw [perform_send]
    cases hargs : readArguments (tagsOf tags) values with
    | error cause' =>
      rw [hargs] at h
      rw [← Except.error.inj h]
      rfl
    | ok args =>
      rw [hargs] at h
      cases h
  | help | quit | load | unload | mute | systemMute | volume | systemVolume | bundleStart
  | bundleEnd | drain => cases h

/-- A verb that succeeds performs its operation. -/
lemma perform_of_succeeds (hv : v ≠ .quit) (h : v.succeeds c.config = true) :
    ∃ outcome, v.perform c = .ok outcome ∧
      c.performAll v.operations = (outcome.client, outcome.requests) := by
  unfold succeeds at h
  cases hop : v.operation with
  | error cause =>
    rw [hop] at h
    cases h
  | ok op? =>
    obtain ⟨report, hperform⟩ := perform_of_operation c hv hop
    rw [hop] at h
    rw [hperform, operations, hop]
    cases op? with
    | none => exact ⟨_, rfl, rfl⟩
    | some op =>
      refine Client.performReporting_of_not_isRefused ?_ report
      simpa using h

/-- A verb that does not succeed fails. -/
lemma perform_of_not_succeeds (hv : v ≠ .quit) (h : v.succeeds c.config = false) :
    ∃ cause, v.perform c = .error cause := by
  unfold succeeds at h
  cases hop : v.operation with
  | error cause => exact ⟨cause, perform_of_operation_error c hop⟩
  | ok op? =>
    obtain ⟨report, hperform⟩ := perform_of_operation c hv hop
    rw [hop] at h
    rw [hperform]
    cases op? with
    | none => cases h
    | some op =>
      refine Client.performReporting_of_isRefused ?_ report
      simpa using h

/-- No verb closes the client. -/
lemma close_notMem_operations (v : Verb) : .close ∉ v.operations := by
  unfold operations
  cases v with
  | send kind address tags values =>
    rw [operation]
    cases readArguments (tagsOf tags) values <;> simp [Except.map]
  | help | quit | load | unload | mute | systemMute | volume | systemVolume | bundleStart
  | bundleEnd | drain => simp [operation, pure, Except.pure]

end Verb

/-! ## One line -/

lemma LineEnd.after_eq_quit_iff (report : String) (ending : LineEnd) :
    ending.after report = .quit ↔ ending = .quit := by
  cases ending <;> simp [after]

namespace Client

variable {c : Client}

lemma runVerbs_cons {v : Verb} (hv : v ≠ .quit) (vs : List Verb) :
    c.runVerbs (v :: vs) =
      match v.perform c with
      | .error cause => { client := c, requests := [], ending := .failed cause }
      | .ok outcome =>
        { outcome.client.runVerbs vs with
          requests := outcome.requests ++ (outcome.client.runVerbs vs).requests
          ending := (outcome.client.runVerbs vs).ending.after outcome.report } := by
  cases v <;> first | rfl | exact absurd rfl hv

lemma config_of_performAll {d : Client} {ops : List Operation} {requests : List Request}
    (h : c.performAll ops = (d, requests)) : d.config = c.config := by
  have hstays := (c.performAll_stays ops).1
  rw [h] at hstays
  exact hstays

/-- A verb that goes on does what it stands for, and then the verbs behind it are carried out. -/
lemma runVerbs_of_goesOn {v : Verb} (hv : v.goesOn c.config = true) (vs : List Verb) :
    ∃ outcome : Outcome, outcome.client.config = c.config ∧
      c.performAll v.operations = (outcome.client, outcome.requests) ∧
      c.runVerbs (v :: vs) =
        { outcome.client.runVerbs vs with
          requests := outcome.requests ++ (outcome.client.runVerbs vs).requests
          ending := (outcome.client.runVerbs vs).ending.after outcome.report } := by
  obtain ⟨hquit, hsucceeds⟩ := Bool.and_eq_true_iff.1 hv
  replace hquit : v ≠ .quit := bne_iff_ne.1 hquit
  obtain ⟨outcome, hperform, hoperations⟩ := Verb.perform_of_succeeds hquit hsucceeds
  refine ⟨outcome, config_of_performAll hoperations, hoperations, ?_⟩
  rw [runVerbs_cons hquit, hperform]

/-- What becomes of a client by the verbs of a line, what they ask for, and whether they leave the
shell. -/
lemma runVerbs_performs (c : Client) (vs : List Verb) :
    ((c.runVerbs vs).client, (c.runVerbs vs).requests) =
        c.performAll ((vs.takeWhile (·.goesOn c.config)).flatMap Verb.operations) ∧
      ((c.runVerbs vs).ending = .quit ↔
        (vs.dropWhile (·.goesOn c.config)).head? = some .quit) := by
  induction vs generalizing c with
  | nil => exact ⟨rfl, by simp [runVerbs]⟩
  | cons v vs ih =>
    by_cases hgoesOn : v.goesOn c.config = true
    · obtain ⟨outcome, hconfig, hoperations, hrun⟩ := runVerbs_of_goesOn hgoesOn vs
      obtain ⟨hrest, hends⟩ := ih outcome.client
      rw [hconfig] at hrest hends
      rw [hrun, List.takeWhile_cons_of_pos hgoesOn, List.dropWhile_cons_of_pos hgoesOn,
        List.flatMap_cons, performAll_append, hoperations, ← hrest]
      exact ⟨rfl, (LineEnd.after_eq_quit_iff _ _).trans hends⟩
    · rw [List.takeWhile_cons_of_neg hgoesOn, List.dropWhile_cons_of_neg hgoesOn]
      by_cases hv : v = .quit
      · subst hv
        exact ⟨rfl, iff_of_true rfl rfl⟩
      · have hsucceeds : v.succeeds c.config = false := by simpa [Verb.goesOn, hv] using hgoesOn
        obtain ⟨cause, hperform⟩ := Verb.perform_of_not_succeeds hv hsucceeds
        rw [runVerbs_cons hv, hperform]
        exact ⟨rfl, by simpa using hv⟩

/-- Of a row of verbs, those before the first that does not go on do what they stand for, and it
decides how the row ends. -/
lemma runVerbs_of_not_goesOn {vs : List Verb} {v : Verb} {ending : LineEnd}
    (hvs : ∀ u ∈ vs, u.goesOn c.config = true) (hv : ¬ v.goesOn c.config = true) (us : List Verb)
    (hends : (c.runVerbs (vs ++ v :: us)).ending = ending) :
    c.runVerbs (vs ++ v :: us) =
      { client := (c.performAll (vs.flatMap Verb.operations)).1
        requests := (c.performAll (vs.flatMap Verb.operations)).2
        ending } := by
  obtain ⟨hperforms, -⟩ := c.runVerbs_performs (vs ++ v :: us)
  rw [List.takeWhile_append_of_pos hvs, List.takeWhile_cons_of_neg hv, List.append_nil]
    at hperforms
  generalize c.runVerbs (vs ++ v :: us) = turn at hperforms hends
  obtain ⟨client, requests, _⟩ := turn
  rw [← hperforms]
  exact congrArg _ hends

end Client

namespace Shell

variable {c : Client}

lemma verbs_of_ok {line : String} {vs : List Verb} (h : Verb.readLine line = .ok vs) :
    verbs line = vs := by
  rw [verbs, h]
  rfl

lemma respond_of_blank (c : Client) {line : String} (h : Text.words line = []) :
    respond c line = ({ client := c, requests := [], ending := .reports [] }, "", true) := by
  rw [respond, h]
  rfl

lemma respond_of_words (c : Client) {line : String} (h : Text.words line ≠ []) :
    respond c line =
      (c.runLine line, (c.runLine line).ending.text, (c.runLine line).ending != .quit) := by
  rw [respond, if_neg (by simpa using h)]

/-- What a line does, and whether the session goes on after it. -/
lemma respond_performs (c : Client) (line : String) :
    ((respond c line).1.client, (respond c line).1.requests) =
        c.performAll (lineOperations c.config line) ∧
      (respond c line).2.2 = !leaves c.config line := by
  by_cases hwords : Text.words line = []
  · have hread : Verb.readLine line = .ok [] := by
      rw [Verb.readLine, hwords]
      rfl
    rw [respond_of_blank c hwords, lineOperations, leaves, verbs_of_ok hread]
    exact ⟨rfl, rfl⟩
  rw [respond_of_words c hwords, Client.runLine, lineOperations, leaves]
  cases hread : Verb.readLine line with
  | error fault =>
    have hverbs : verbs line = [] := by
      rw [verbs, hread]
      rfl
    rw [hverbs]
    exact ⟨rfl, rfl⟩
  | ok vs =>
    obtain ⟨hperforms, hends⟩ := c.runVerbs_performs vs
    rw [verbs_of_ok hread]
    refine ⟨hperforms, ?_⟩
    rw [← decide_eq_decide.2 hends]
    rfl

/-! ## Sessions -/

lemma operations_cons (config : Config) (line : String) (lines : List String) :
    operations config (line :: lines) = lineOperations config line ++
      if leaves config line then [] else operations config lines := by
  rw [operations, linesRead, List.flatMap_cons]
  cases leaves config line <;> rfl

lemma runLines_cons (c : Client) (line : String) (lines : List String) :
    runLines c (line :: lines) =
      if (respond c line).2.2 then
        { runLines (respond c line).1.client lines with
          requests := (respond c line).1.requests ++
            (runLines (respond c line).1.client lines).requests
          output := (respond c line).2.1 ++ (runLines (respond c line).1.client lines).output }
      else
        { client := (respond c line).1.client
          requests := (respond c line).1.requests
          output := (respond c line).2.1 } := rfl

/-- No line changes the configuration. -/
lemma config_respond (c : Client) (line : String) :
    (respond c line).1.client.config = c.config := by
  obtain ⟨hperforms, -⟩ := respond_performs c line
  exact (congrArg (fun x => x.1.config) hperforms).trans (c.performAll_stays _).1

/-- What lines do until the session ends. -/
lemma runLines_performs (c : Client) (lines : List String) :
    ((runLines c lines).client, (runLines c lines).requests) =
      c.performAll (operations c.config lines) := by
  induction lines generalizing c with
  | nil => rfl
  | cons line lines ih =>
    obtain ⟨hperforms, hgoesOn⟩ := respond_performs c line
    have hrest := ih (respond c line).1.client
    rw [config_respond] at hrest
    rw [runLines_cons, operations_cons, hgoesOn]
    cases leaves c.config line with
    | true =>
      rw [if_pos rfl, List.append_nil, ← hperforms]
      rfl
    | false =>
      rw [if_neg Bool.false_ne_true, Client.performAll_append, ← hperforms, ← hrest]
      rfl

/-- A session closes the client when its lines are over. -/
lemma run_performs (c : Client) (lines : List String) :
    ((run c lines).client, (run c lines).requests) =
      c.performAll (operations c.config lines ++ [.close]) := by
  rw [Client.performAll_append, ← runLines_performs, Client.performAll_close]
  rfl

lemma close_notMem_operations (config : Config) (lines : List String) :
    .close ∉ operations config lines := by
  intro h
  obtain ⟨line, -, h⟩ := List.mem_flatMap.1 h
  obtain ⟨v, -, h⟩ := List.mem_flatMap.1 h
  exact v.close_notMem_operations h

/-- A line that leaves the shell does what the verbs do before the one that leaves it. -/
lemma runVerbs_of_quit {vs : List Verb} (hvs : ∀ v ∈ vs, v.goesOn c.config = true)
    (us : List Verb) : c.runVerbs (vs ++ .quit :: us) =
      { client := (c.performAll (vs.flatMap Verb.operations)).1
        requests := (c.performAll (vs.flatMap Verb.operations)).2
        ending := .quit } := by
  have hquit : ¬ Verb.goesOn c.config .quit = true := Bool.false_ne_true
  obtain ⟨-, hends⟩ := c.runVerbs_performs (vs ++ .quit :: us)
  rw [List.dropWhile_append_of_pos hvs, List.dropWhile_cons_of_neg hquit] at hends
  exact Client.runVerbs_of_not_goesOn hvs hquit us (hends.2 rfl)

/-- Of a line that leaves the shell only the verbs before that matter. -/
lemma respond_of_quit {line : String} {vs us : List Verb}
    (h : Verb.readLine line = .ok (vs ++ .quit :: us))
    (hvs : ∀ v ∈ vs, v.goesOn c.config = true) :
    respond c line =
      ({ client := (c.performAll (vs.flatMap Verb.operations)).1
         requests := (c.performAll (vs.flatMap Verb.operations)).2
         ending := .quit }, "", false) := by
  have hwords : Text.words line ≠ [] := by
    intro hwords
    rw [Verb.readLine, hwords] at h
    have hnil := Except.ok.inj h
    simp at hnil
  rw [respond_of_words c hwords, Client.runLine, h]
  dsimp only
  rw [runVerbs_of_quit hvs us]
  rfl

/-- Nothing behind the verb that leaves the shell matters, on its line or on another. -/
lemma runLines_of_quit {line line' : String} {vs us us' : List Verb}
    (h : Verb.readLine line = .ok (vs ++ .quit :: us))
    (h' : Verb.readLine line' = .ok (vs ++ .quit :: us'))
    (hvs : ∀ v ∈ vs, v.goesOn c.config = true) (before after after' : List String) :
    runLines c (before ++ line :: after) = runLines c (before ++ line' :: after') := by
  induction before generalizing c with
  | nil =>
    rw [List.nil_append, List.nil_append, runLines_cons, runLines_cons, respond_of_quit h hvs,
      respond_of_quit h' hvs]
    rfl
  | cons first before ih =>
    rw [← config_respond c first] at hvs
    rw [List.cons_append, List.cons_append, runLines_cons, runLines_cons, ih hvs]

/-- A session performs what its lines ask for, in order, and then closes the client, which nothing
else does.  Nothing behind the verb that leaves the shell has any effect or is answered, as long as
its line can be read.  When the session is over, no bundle is open and both transports are at rest,
whatever was asked of them before. -/
theorem run_performs_lines (c : Client) (lines : List String) :
    ((run c lines).client, (run c lines).requests) =
      c.performAll (operations c.config lines ++ [.close]) ∧
    .close ∉ operations c.config lines ∧
    (∀ before line line' after after' vs us us',
      Verb.readLine line = .ok (vs ++ .quit :: us) →
      Verb.readLine line' = .ok (vs ++ .quit :: us') →
      (∀ v ∈ vs, v.goesOn c.config = true) →
      run c (before ++ line :: after) = run c (before ++ line' :: after')) ∧
    (run c lines).client.bundle = none ∧
    ∀ allowed earlier rest es r,
      Caller.Run allowed { requests := earlier ++ (run c lines).requests ++ rest } es r →
      es.length ≤ 17 * (earlier ++ (run c lines).requests ++ rest).length ∧
      (r.IsDone ∨ r.CanGoOn) ∧
      (r.requests = rest → r.standing = .free → ∀ kind, (r.outlet kind).system.IsAtRest) := by
  have hclose := (runLines c lines).client.close_eq
  refine ⟨run_performs c lines, close_notMem_operations c.config lines, ?_, ?_, ?_⟩
  · intro before line line' after after' vs us us' h h' hvs
    rw [run, run, runLines_of_quit h h' hvs before after after']
  · exact congrArg (fun x => x.1.bundle) hclose
  · intro allowed earlier rest es r hrun
    refine ⟨hrun.length_le, hrun.isDone_or_canGoOn, fun hr hfree kind => ?_⟩
    have hrequests : (run c lines).requests =
        (runLines c lines).requests ++ (runLines c lines).client.close.2 := rfl
    refine hrun.isAtRest hr hfree ?_
    rw [hrequests, hclose, ← List.append_assoc, ← List.append_assoc, ← List.append_assoc]
    exact Client.getLast?_requestsTo_close kind _ _

/-- A line with a fault, one that is blank, one whose last verb fails, one that leaves the shell
between two verbs, and one behind it. -/
def script : List String :=
  ["load volume", " ", "Load mute 1 send udp /x b 00", "bundle start drain quit unload", "unload"]

theorem run_performs_lines_script :
    operations Client.datagramConfig script = [.load, .mute true, .startBundle, .drain] ∧
    (run Client.datagramClient script).requests =
      (Client.datagramClient.performAll [.load, .mute true, .startBundle, .drain, .close]).2 ∧
    run Client.datagramClient script =
      run Client.datagramClient (script.take 3 ++ ["bundle start drain EXIT"]) ∧
    ∃ es r, Caller.Run Caller.Succeeds
        { requests := [] ++ (run Client.datagramClient script).requests ++ [] } es r ∧ r.IsDone ∧
      ∀ kind, (r.outlet kind).system.IsAtRest := by
  have hoperations : operations Client.datagramClient.config script =
      [.load, .mute true, .startBundle, .drain] := by decide +kernel
  have hread : Verb.readLine "bundle start drain quit unload" =
      .ok ([.bundleStart, .drain] ++ .quit :: [.unload]) := by decide +kernel
  have hread' : Verb.readLine "bundle start drain EXIT" =
      .ok ([.bundleStart, .drain] ++ .quit :: []) := by decide +kernel
  obtain ⟨hperforms, -, hquit, -, hends⟩ := run_performs_lines Client.datagramClient script
  refine ⟨hoperations, ?_, ?_, ?_⟩
  · rw [hoperations] at hperforms
    exact congrArg Prod.snd hperforms
  · exact hquit (script.take 3) _ _ ["unload"] [] _ _ _ hread hread' (by decide +kernel)
  · obtain ⟨es, r, hrun, hdone⟩ :=
      Caller.exists_run_isDone ([] ++ (run Client.datagramClient script).requests ++ [])
    obtain ⟨-, -, hrest⟩ := hends _ [] [] es r hrun
    exact ⟨es, r, hrun, hdone, hrest hdone.1 hdone.2⟩

end Shell

end OscRemote
