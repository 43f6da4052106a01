import OscRemote.Command.Basic
import OscRemote.Proofs.Client.Effect

/-!
# What a command submits

A command has one message, if its words make one (`Command.Says`).  Executing it checks the words,
and then has the client perform an operation, which finds the message once more and submits it.  A
volume is looked at twice on this way: out of bounds it is an error of the command, and for the
client it would be nothing to do.  Both agree on the bounds, so a command that succeeds has always
submitted its message (`Command.exists_submit_of_execute_eq_ok`), and one that fails has submitted
nothing.

The state of the client and of its transports does not matter for this, and nor does whether a
bundle is open.
-/

namespace OscRemote

open Number (Single)

/-! ## Volumes -/

/-- A volume is refused exactly if the client would pass over it. -/
lemma checkVolume_of_isBeyondUnit {level : Single} (h : level.IsBeyondUnit) :
    checkVolume level = .error (.volumeOutside level) := by
  rw [checkVolume, level.inUnitInterval_eq_false_iff.2 h]
  rfl

namespace Command

/-- The operation of a command, unless its volume is out of bounds or its words do not spell
arguments. -/
def operation : Command → Except CommandError Operation
  | load => pure .load
  | unload => pure .unload
  | mute on => pure (.mute on)
  | volume level => do
    (checkVolume level).mapError .input
    pure (.volume level)
  | systemMute on => pure (.systemMute on)
  | systemVolume level => do
    (checkVolume level).mapError .input
    pure (.systemVolume level)
  | send kind address tags values => do
    let args ← readArguments (tagsOf tags) values
    pure (.send kind address args)

/-- The transport on which the message of a command travels. -/
def transport (config : Config) : Command → TransportKind
  | send kind .. => kind
  | _ => config.coreTransport

variable {command : Command} {op : Operation}

/-- A command performs its operation and reports it. -/
lemma execute_eq (c : Client) (command : Command) : ∃ report : Operation → String,
    command.execute c = command.operation >>= fun op => c.performReporting op (report op) := by
  cases command with
  | send kind address tags values =>
    refine ⟨fun
      | .send _ _ args =>
        "Sent " ++ c.baseAddress ++ address ++ " (" ++ toString args.length ++ " argument(s))"
      | _ => "", ?_⟩
    simp [execute, operation, Client.sendWords]
  | volume level =>
    refine ⟨fun _ => "Volume " ++ c.baseAddress ++ " to " ++ level.toText, ?_⟩
    simp [execute, operation]
  | systemVolume level =>
    refine ⟨fun _ => "Volume system to " ++ level.toText, ?_⟩
    simp [execute, operation]
  | load | unload | mute | systemMute => exact ⟨fun _ => _, rfl⟩

lemma execute_of_operation (c : Client) (h : command.operation = .ok op) :
    ∃ report, command.execute c = c.performReporting op report := by
  obtain ⟨report, hexecute⟩ := execute_eq c command
  rw [h] at hexecute
  exact ⟨report op, hexecute⟩

lemma not_isBeyondUnit_of_checkVolume {level : Single} {accepted : Unit}
    (h : (checkVolume level).mapError CommandError.input = .ok accepted) :
    ¬ level.IsBeyondUnit := by
  intro hbeyond
  rw [checkVolume_of_isBeyondUnit hbeyond] at h
  cases h

/-- The operation of a command has a message, on the transport of the command. -/
lemma of_operation_eq_ok (h : command.operation = .ok op) :
    op.isSending = true ∧ ¬ op.IsBeyondBounds ∧
      ∀ config kind m, op.message? config = some (kind, m) → kind = command.transport config := by
  cases command with
  | send kind address tags values =>
    obtain ⟨args, -, h⟩ := exists_of_bind_eq_ok h
    obtain rfl := Except.ok.inj h
    refine ⟨rfl, id, ?_⟩
    rintro config _ m ⟨⟩
    rfl
  | volume level | systemVolume level =>
    obtain ⟨accepted, hcheck, h⟩ := exists_of_bind_eq_ok h
    obtain rfl := Except.ok.inj h
    refine ⟨rfl, not_isBeyondUnit_of_checkVolume hcheck, ?_⟩
    intro config kind m hmessage
    obtain ⟨-, hsome⟩ := Option.ite_none_right_eq_some.1 hmessage
    cases hsome
    rfl
  | load | unload | mute | systemMute =>
    obtain rfl := Except.ok.inj h
    refine ⟨rfl, id, ?_⟩
    rintro config _ m ⟨⟩
    rfl

/-- A command that succeeds has the client submit its message, which has an encoding. -/
lemma exists_submit_of_execute_eq_ok {c : Client} {outcome : Outcome}
    (h : command.execute c = .ok outcome) :
    ∃ op m message, command.operation = .ok op ∧
      op.message? c.config = some (command.transport c.config, m) ∧ m.encode = .ok message ∧
      (outcome.client, outcome.requests) = c.submit (command.transport c.config) message := by
  obtain ⟨report, hexecute⟩ := execute_eq c command
  rw [hexecute] at h
  obtain ⟨op, hop, h⟩ := exists_of_bind_eq_ok h
  obtain ⟨hsending, hbounds, htransport⟩ := of_operation_eq_ok hop
  have hmessage := mt (Operation.message?_eq_none_iff c.config hsending).1 hbounds
  rw [Client.performReporting, c.perform_of_isSending hsending] at h
  cases hsend : c.sendOperation op with
  | error e =>
    rw [hsend] at h
    cases h
  | ok result =>
    rw [hsend] at h
    obtain rfl := Except.ok.inj h
    obtain ⟨kind, m, message, hsome, hencode, rfl⟩ := Client.of_sendOperation_eq_ok hsend hmessage
    obtain rfl := htransport _ _ _ hsome
    exact ⟨op, m, message, hop, hsome, hencode, rfl⟩

/-- A command whose message has an encoding succeeds. -/
lemma exists_execute_eq_ok {c : Client} {kind : TransportKind} {m : Message} {message : Octets}
    (hop : command.operation = .ok op) (hmessage : op.message? c.config = some (kind, m))
    (hencode : m.encode = .ok message) : ∃ outcome, command.execute c = .ok outcome := by
  obtain ⟨report, hexecute⟩ := execute_of_operation c hop
  rw [hexecute, Client.performReporting]
  cases hperform : c.perform op with
  | ok result => exact ⟨_, rfl⟩
  | error e =>
    obtain ⟨kind', m', cause, hmessage', hencode', -⟩ := (c.perform_eq_error_iff op e).1 hperform
    obtain ⟨-, rfl⟩ := Prod.mk.inj (Option.some.inj (hmessage.symm.trans hmessage'))
    cases hencode.symm.trans hencode'

/-! ## The messages of commands -/

end Command

/-! ## Exactly one message -/

namespace Client

variable {c c' : Client} {kind : TransportKind} {message : Octets}

end Client

namespace Command

variable {command : Command}

/-- What becomes of a client if a command is attempted, and what it asks for. -/
def attempt (c : Client) (command : Command) : Client × List Request :=
  (command.execute c).toOption.elim (c, []) fun outcome => (outcome.client, outcome.requests)

end Command

end OscRemote
