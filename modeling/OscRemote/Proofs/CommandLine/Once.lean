import OscRemote.CommandLine.Run
import OscRemote.Proofs.Client.Lifetime
import OscRemote.Proofs.Command.Execute
import OscRemote.Proofs.Message.Acceptance

/-!
# Commands that are run once

A run of the program that executes one command ends with a status.  If it is not zero, nothing was
asked of the transports, so nothing has begun on them.  If it is zero, the command has a message with
an encoding; the client sends it, closes, and is closed once more when the program ends.  So the
peer gets this message, then the one that unloads the project, if it is to, and nothing else.

The message that unloads the project names its base address, which has no encoding if there is a
zero in it.  Such an address can come from a file, and a command that does not name it succeeds; then
the project is not unloaded.
-/

namespace OscRemote

open Number (Single)

/-! ## What a command sends -/

/-- A command that succeeds where no bundle is open has the client send its message, which has an
encoding. -/
lemma Command.of_execute_eq_ok {command : Command} {c : Client} {outcome : Outcome}
    (hbundle : c.bundle = none) (h : command.execute c = .ok outcome) :
    ∃ op m message, command.operation = .ok op ∧
      op.message? c.config = some (command.transport c.config, m) ∧ m.encode = .ok message ∧
      outcome.client = c ∧ outcome.requests = [.send (command.transport c.config) message] := by
  obtain ⟨op, m, message, hop, hmessage, hencode, hsubmit⟩ := exists_submit_of_execute_eq_ok h
  rw [Client.submit_of_bundle_eq_none hbundle] at hsubmit
  exact ⟨op, m, message, hop, hmessage, hencode, congrArg Prod.fst hsubmit,
    congrArg Prod.snd hsubmit⟩

/-! ## What arrives -/

/-- Where nothing is left to do and nothing was done, nothing happens. -/
lemma Caller.perform?_of_nothing (e : Event) : ({ requests := [] } : Caller).perform? e = none := by
  cases e with
  | proceed | giveUp => rfl
  | work kind a => cases kind <;> cases a <;> rfl

lemma Caller.Run.eq_of_nothing {allowed : Caller → Event → Prop} {es : List Event} {r : Caller}
    (h : Run allowed { requests := [] } es r) : r = { requests := [] } := by
  cases h with
  | nil => rfl
  | cons _ hperform _ =>
    rw [perform?_of_nothing] at hperform
    cases hperform

/-- The messages for one transport among packets, in order. -/
def messagesTo (kind : TransportKind) (packets : List (TransportKind × Octets)) : List Octets :=
  (packets.filter (·.1 = kind)).map (·.2)

/-- The requests by which packets are sent. -/
def sends (packets : List (TransportKind × Octets)) : List Request :=
  packets.map fun packet => .send packet.1 packet.2

lemma requestsTo_sends (kind : TransportKind) (packets : List (TransportKind × Octets)) :
    requestsTo kind (sends packets) = (messagesTo kind packets).map (.send kind) := by
  unfold requestsTo sends messagesTo
  rw [List.filter_map, List.map_map]
  refine List.map_congr_left fun packet hpacket => ?_
  obtain rfl : packet.1 = kind := of_decide_eq_true (List.mem_filter.1 hpacket).2
  rfl

namespace Client

variable {c : Client} {config : Config}

/-- What a client sends last of all, with its transport: the message that unloads the project, if it
is to and there is no zero in the base address. -/
def unloadPackets (config : Config) : List (TransportKind × Octets) :=
  if config.onClose.unload then (Operation.unload.packet? config).toList else []

lemma exists_unloadPackets_eq (hunload : config.onClose.unload = true)
    (hzero : '\x00' ∉ config.baseAddress.toList) :
    ∃ last, encode "/AM/Unload" [.text config.baseAddress] = .ok last ∧
      unloadPackets config = [(config.coreTransport, last)] := by
  have hpacket : Operation.unload.packet? config =
      (encode "/AM/Unload" [.text config.baseAddress]).toOption.map (config.coreTransport, ·) := rfl
  have hsome := mt (Operation.packet?_unload_eq_none_iff config).1 hzero
  rw [unloadPackets, if_pos hunload, hpacket]
  cases hencode : encode "/AM/Unload" [.text config.baseAddress] with
  | error cause =>
    rw [hpacket, hencode] at hsome
    exact absurd rfl hsome
  | ok last => exact ⟨last, rfl, rfl⟩

lemma unloadPackets_eq_nil
    (h : ¬ (config.onClose.unload = true ∧ '\x00' ∉ config.baseAddress.toList)) :
    unloadPackets config = [] := by
  unfold unloadPackets
  split
  case isTrue hunload =>
    have hzero := not_not.1 fun hzero => h ⟨hunload, hzero⟩
    rw [(Operation.packet?_unload_eq_none_iff config).2 hzero]
    rfl
  case isFalse => rfl

lemma close_of_fresh (hbundle : c.bundle = none) (hclosed : c.closed = false) :
    c.close = ({ c with closed := true },
      sends (unloadPackets c.config) ++ closeRequests c.config) := by
  have hempty : (c.performAll []).1.bundle = none := hbundle
  have hclose : c.close = _ := close_performAll hbundle hclosed []
  rw [hclose, hempty]
  cases hunload : c.config.onClose.unload <;> simp [sends, unloadPackets, hunload]

/-- A client that was closed only has the transports closed when it goes away. -/
lemma requestsTo_departure (hbundle : c.bundle = none) (hclosed : c.closed = true)
    (hpolicy : c.config.onClose.policy = .drainFirst) (kind : TransportKind) :
    requestsTo kind c.departure = waits c.config kind .close ++ waits c.config kind .close := by
  rw [departure, close_of_closed hbundle hclosed, leaveRequests_eq hpolicy, leaveRequests_eq hpolicy,
    requestsTo_append, requestsTo_append, requestsTo_closeRequests hpolicy]
  cases kind <;> rfl

/-- What a client asks of one transport that sends packets, closes and goes away. -/
lemma requestsTo_sends_departure (hbundle : c.bundle = none) (hclosed : c.closed = false)
    (hpolicy : c.config.onClose.policy = .drainFirst) (packets : List (TransportKind × Octets))
    (kind : TransportKind) :
    requestsTo kind (sends packets ++ c.close.2 ++ c.close.1.departure) =
      (messagesTo kind (packets ++ unloadPackets c.config)).map (.send kind) ++
        (waits c.config kind .close ++ (waits c.config kind .close ++ waits c.config kind .close)) := by
  have hbundle' : ({ c with closed := true } : Client).bundle = none := hbundle
  have hdeparture := requestsTo_departure hbundle' rfl hpolicy kind
  have hsends : sends packets ++ sends (unloadPackets c.config) =
      sends (packets ++ unloadPackets c.config) := List.map_append.symm
  rw [close_of_fresh hbundle hclosed]
  dsimp only
  rw [← List.append_assoc, hsends, requestsTo_append, requestsTo_append, requestsTo_sends,
    requestsTo_closeRequests hpolicy, hdeparture, List.append_assoc]

/-- If nothing fails, what arrives of a client that sends packets, closes and goes away is one
session on each transport for which there are any, with the message that unloads the project last. -/
lemma arrivals_of_departure (hbundle : c.bundle = none) (hclosed : c.closed = false)
    (hpolicy : c.config.onClose.policy = .drainFirst) (packets : List (TransportKind × Octets))
    {es : List Event} {r : Caller}
    (h : Caller.Run Caller.Succeeds
      { requests := sends packets ++ c.close.2 ++ c.close.1.departure } es r)
    (hdone : r.IsDone) (kind : TransportKind) :
    (r.outlet kind).arrivals =
      Arrival.log (nonempty [messagesTo kind (packets ++ unloadPackets c.config)]) := by
  have hrequests := requestsTo_sends_departure hbundle hclosed hpolicy packets kind
  have hwaits (drained : Bool) : ClosesDrained drained (waits c.config kind .close ++
      (waits c.config kind .close ++ waits c.config kind .close)) := ⟨rfl, rfl, rfl, rfl⟩
  have hdrained : ClosesDrained true
      (requestsTo kind (sends packets ++ c.close.2 ++ c.close.1.departure)) := by
    rw [hrequests]
    exact closesDrained_map_send kind _ hwaits true
  rw [h.arrivals_eq hdrained hdone, hrequests, stretches_map_send, stretches_waits_close,
    List.nil_append]
  exact congrArg Arrival.log (nonempty_cons_congr _ rfl)

end Client

/-! ## The program -/

namespace CommandLine

/-- The end of a program that does not begin a session of the shell. -/
def Start.exit? : Start → Option Exit
  | .exit e => some e
  | .shell _ => none

variable {files : Files} {env : Environment} {i : Invocation} {command : Command}

lemma start_of_execute {config : Config} {c : Client} {outcome : Outcome}
    (hi : i.command = some command) (hconfig : i.config files env = .ok config)
    (hbase : config.baseAddress.isEmpty = false) (hc : Client.ofConfig config = .ok c)
    (hexecute : command.execute c = .ok outcome) :
    start files env i = .exit
      { output := outcome.report ++ "\n", requests := outcome.requests ++ outcome.client.close.2 } := by
  simp only [start, hconfig, hbase, hc, hi, once, hexecute]
  rfl

/-- A command is run once, and either ends with a status that is not zero, asking for nothing, or it
succeeds and the client is closed. -/
lemma start_of_command (hi : i.command = some command) :
    ∃ e, start files env i = .exit e ∧
      (e.status ≠ 0 ∧ e.requests = [] ∨
        e.status = 0 ∧ ∃ config c outcome, i.config files env = .ok config ∧
          config.baseAddress.isEmpty = false ∧ Client.ofConfig config = .ok c ∧
          command.execute c = .ok outcome ∧
          e.requests = outcome.requests ++ outcome.client.close.2) := by
  have hfailure (status : Nat) (text : String) (hstatus : status ≠ 0) :
      (failure status text).status ≠ 0 ∧ (failure status text).requests = [] := ⟨hstatus, rfl⟩
  unfold start
  cases hconfig : i.config files env with
  | error cause => exact ⟨_, rfl, Or.inl (hfailure _ _ (by decide))⟩
  | ok config =>
    dsimp only
    split
    case isTrue => exact ⟨_, rfl, Or.inl (hfailure _ _ (by decide))⟩
    case isFalse hbase =>
      cases hc : Client.ofConfig config with
      | error cause => exact ⟨_, rfl, Or.inl (hfailure _ _ (by decide))⟩
      | ok c =>
        simp only [hi]
        refine ⟨_, rfl, ?_⟩
        unfold once
        cases hexecute : command.execute c with
        | error cause => exact Or.inl (hfailure _ _ (by decide))
        | ok outcome =>
          rw [Bool.not_eq_true] at hbase
          exact Or.inr ⟨rfl, config, c, outcome, rfl, hbase, hc, hexecute, rfl⟩

/-- A run of the program that executes one command ends, with status zero exactly if the configuration
is one that a client can have and gives a base address, and the command has a message with an
encoding.

If the status is not zero, nothing was asked of the transports, and nothing arrives.

If it is zero, the client sends the message, closes, and goes away when the program ends.  If it
waits before it closes, and nothing fails, then the thread comes to an end and the peer has got this
message on the transport of the command, and behind it the message that unloads the project, on the
core transport, if the configuration asks for it and there is no zero in the base address, and
nothing else. -/
theorem start_sends_one_or_nothing (files : Files) (env : Environment) {i : Invocation}
    {command : Command} (hi : i.command = some command) :
    ∃ e, start files env i = .exit e ∧
      (e.status = 0 ↔ ∃ config c op kind m message, i.config files env = .ok config ∧
        config.baseAddress.isEmpty = false ∧ Client.ofConfig config = .ok c ∧
        command.operation = .ok op ∧ op.message? config = some (kind, m) ∧
        m.encode = .ok message) ∧
      (e.status ≠ 0 → e.requests = [] ∧
        ∀ allowed es r, Caller.Run allowed { requests := e.requests } es r →
          ∀ kind, (r.outlet kind).arrivals = []) ∧
      (e.status = 0 → ∃ config c outcome op m message unloading,
        i.config files env = .ok config ∧ Client.ofConfig config = .ok c ∧
        command.execute c = .ok outcome ∧
        e.requests = outcome.requests ++ outcome.client.close.2 ∧
        command.operation = .ok op ∧
        op.message? config = some (command.transport config, m) ∧ m.encode = .ok message ∧
        (config.onClose.unload = true → '\x00' ∉ config.baseAddress.toList →
          ∃ last, encode "/AM/Unload" [.text config.baseAddress] = .ok last ∧
            unloading = [(config.coreTransport, last)]) ∧
        (¬ (config.onClose.unload = true ∧ '\x00' ∉ config.baseAddress.toList) →
          unloading = []) ∧
        (config.onClose.policy = .drainFirst → ∀ es r,
          Caller.Run Caller.Succeeds
            { requests := e.requests ++ outcome.client.close.1.departure } es r →
          es.length ≤ 17 * (e.requests ++ outcome.client.close.1.departure).length ∧
          (r.IsDone ∨ r.CanGoOn) ∧
          (r.IsDone →
            (∀ kind, (r.outlet kind).arrivals = Arrival.log (nonempty
              [messagesTo kind ((command.transport config, message) :: unloading)])) ∧
            r.stream.streams = (nonempty
              [messagesTo .stream ((command.transport config, message) :: unloading)]).map frames ∧
            r.datagram.messages =
              messagesTo .datagram ((command.transport config, message) :: unloading)))) := by
  obtain ⟨e, hstart, ⟨hstatus, hnothing⟩ | ⟨hstatus, hsuccess⟩⟩ := start_of_command hi
  · refine ⟨e, hstart, iff_of_false hstatus ?_, fun _ => ⟨hnothing, ?_⟩,
      fun hzero => absurd hzero hstatus⟩
    · rintro ⟨config, c, op, kind, m, message, hconfig, hbase, hc, hop, hmessage, hencode⟩
      obtain ⟨rfl, -, -⟩ := Client.of_ofConfig hc
      obtain ⟨outcome, hexecute⟩ := Command.exists_execute_eq_ok hop hmessage hencode
      have hexit := hstart.symm.trans (start_of_execute hi hconfig hbase hc hexecute)
      exact hstatus (congrArg Exit.status (Start.exit.inj hexit))
    · intro allowed es r hrun kind
      rw [hnothing] at hrun
      rw [hrun.eq_of_nothing]
      cases kind <;> rfl
  · obtain ⟨config, c, outcome, hconfig, hbase, hc, hexecute, hrequests⟩ := hsuccess
    obtain ⟨rfl, hbundle, hclosed⟩ := Client.of_ofConfig hc
    obtain ⟨op, m, message, hop, hmessage, hencode, hclient, hsent⟩ :=
      Command.of_execute_eq_ok hbundle hexecute
    refine ⟨e, hstart, iff_of_true hstatus ⟨c.config, c, op, _, m, message, hconfig, hbase, hc, hop,
      hmessage, hencode⟩, fun hne => absurd hstatus hne, fun _ => ?_⟩
    refine ⟨c.config, c, outcome, op, m, message, Client.unloadPackets c.config, hconfig, hc,
      hexecute, hrequests, hop, hmessage, hencode, Client.exists_unloadPackets_eq,
      Client.unloadPackets_eq_nil, ?_⟩
    intro hpolicy es r hrun
    refine ⟨hrun.length_le, hrun.isDone_or_canGoOn, fun hdone => ?_⟩
    rw [hrequests, hclient, hsent] at hrun
    have harrivals := Client.arrivals_of_departure hbundle hclosed hpolicy
      [(command.transport c.config, message)] hrun hdone
    refine ⟨harrivals, Outlet.streams_of_log (harrivals .stream), ?_⟩
    have hmessages : r.datagram.messages = _ := Outlet.messages_of_log (harrivals .datagram)
    rw [hmessages, nonempty, List.flatten_filter_not_isEmpty, List.flatten_singleton,
      List.singleton_append]

/-- A command for the stream, where messages about the project are datagrams and it is to be unloaded
in the end. -/
def mixed : Invocation where
  baseAddress := some "/P"
  command := some (.send .stream "/x" "" [])

/-- Variables that choose datagrams and have the project unloaded. -/
def mixedVariables : Environment
  | "AMC_PROTOCOL" => some "udp"
  | "AMC_UNLOAD_ON_CLOSE" => some "1"
  | _ => none

/-- The configuration that they make. -/
def mixedConfig : Config where
  baseAddress := "/P"
  coreTransport := .datagram
  onClose := { unload := true }

theorem start_sends_one_or_nothing_mixed :
    ∃ e c es r, start (fun _ => .error .notFound) mixedVariables mixed = .exit e ∧ e.status = 0 ∧
      Caller.Run Caller.Succeeds { requests := e.requests ++ Client.departure c } es r ∧ r.IsDone ∧
      r.stream.messages.map List.length = [12] ∧ r.datagram.messages.map List.length = [20] := by
  obtain ⟨e, hstart, -, -, hsends⟩ :=
    start_sends_one_or_nothing (fun _ => .error .notFound) mixedVariables
      (rfl : mixed.command = some _)
  have hstatus : (start (fun _ => .error .notFound) mixedVariables mixed).exit?.map Exit.status =
      some 0 := by decide +kernel
  have hmixed : (mixed.config (fun _ => .error .notFound) mixedVariables).toOption =
      some mixedConfig := by decide +kernel
  have hlength : (Message.encode ⟨mixedConfig.baseAddress ++ "/x", []⟩).toOption.map List.length =
      some 12 := by decide +kernel
  have hlength' : (encode "/AM/Unload" [.text mixedConfig.baseAddress]).toOption.map List.length =
      some 20 := by decide +kernel
  rw [hstart] at hstatus
  replace hstatus : e.status = 0 := Option.some.inj hstatus
  obtain ⟨config, c, outcome, op, m, message, unloading, hconfig, -, -, -, hop, hmessage, hencode,
    hunload, -, hdelivers⟩ := hsends hstatus
  rw [hconfig] at hmixed
  obtain rfl := Option.some.inj hmixed
  obtain rfl := Except.ok.inj hop
  obtain ⟨-, rfl⟩ := Prod.mk.inj (Option.some.inj hmessage)
  obtain ⟨last, hlast, rfl⟩ := hunload rfl (by decide +kernel)
  obtain ⟨es, r, hrun, hdone⟩ :=
    Caller.exists_run_isDone (e.requests ++ outcome.client.close.1.departure)
  obtain ⟨-, -, harrives⟩ := hdelivers rfl es r hrun
  obtain ⟨harrivals, -, hdatagrams⟩ := harrives hdone
  have hstream : r.stream.messages = [message] := Outlet.messages_of_log (harrivals .stream)
  have hdatagram : r.datagram.messages = [last] := hdatagrams
  rw [hencode] at hlength
  rw [hlast] at hlength'
  refine ⟨e, _, es, r, hstart, hstatus, hrun, hdone, ?_, ?_⟩
  · rw [hstream, List.map_singleton, Option.some.inj hlength]
  · rw [hdatagram, List.map_singleton, Option.some.inj hlength']

/-- A file that gives the base address with a zero in it, and asks for the project to be unloaded. -/
def zeroFile : String := "base_address: \"/a\\0b\"\non_close:\n  unload: true\n"

/-- The only file that there is. -/
def zeroFiles : Files := fun path =>
  if path = "amc.yaml" then .ok (octetsOf zeroFile) else .error .notFound

/-- The configuration that it makes. -/
def zeroConfig : Config where
  baseAddress := "/a\x00b"
  onClose := { unload := true }

/-- A client with this configuration. -/
def zeroClient : Client where
  config := zeroConfig
  isValid := by decide +kernel

/-- A command that does not name the base address. -/
def zeroCommand : Command := .systemVolume ⟨0x3F800000⟩

/-- The command with this file. -/
def zeroInvocation : Invocation where
  file := some "amc.yaml"
  command := some zeroCommand

lemma exists_encode_volume (level : Single) :
    ∃ message, encode "/AM/Volume" [.float32 level] = .ok message := by
  have hfault : messageFault? "/AM/Volume" [.float32 level] = none := by
    refine (messageFault?_eq_none_iff _ _).2 ⟨by decide, by decide, fun arg harg => ?_⟩
    rw [List.mem_singleton.1 harg]
    exact (Argument.fault?_eq_none_iff _).1 rfl
  rw [encode_eq, hfault]
  exact ⟨_, rfl⟩

/-- A command succeeds and the project is to be unloaded, but no message arrives behind that of the
command, since the base address has no encoding. -/
theorem unloading_is_left_out : ∃ e outcome es r,
    start zeroFiles (fun _ => none) zeroInvocation = .exit e ∧ e.status = 0 ∧
    zeroInvocation.config zeroFiles (fun _ => none) = .ok zeroConfig ∧
    zeroConfig.onClose.unload = true ∧ zeroConfig.onClose.policy = .drainFirst ∧
    Client.ofConfig zeroConfig = .ok zeroClient ∧ zeroCommand.execute zeroClient = .ok outcome ∧
    Caller.Run Caller.Succeeds
      { requests := e.requests ++ outcome.client.close.1.departure } es r ∧ r.IsDone ∧
    r.stream.messages.length = 1 ∧ r.datagram.messages = [] := by
  have hloads : (zeroInvocation.config zeroFiles fun _ => none).toOption = some zeroConfig := by
    decide +kernel
  have hc : Client.ofConfig zeroConfig = .ok zeroClient := by rfl
  obtain ⟨message, hencode⟩ := exists_encode_volume (Single.decibels ⟨0x3F800000⟩)
  obtain ⟨outcome, hexecute⟩ : ∃ outcome, zeroCommand.execute zeroClient = .ok outcome :=
    Command.exists_execute_eq_ok rfl rfl hencode
  obtain ⟨-, -, message, -, -, -, hclient, hsent⟩ := Command.of_execute_eq_ok rfl hexecute
  cases hconfig : zeroInvocation.config zeroFiles fun _ => none with
  | error cause =>
    rw [hconfig] at hloads
    cases hloads
  | ok config =>
    rw [hconfig] at hloads
    obtain rfl := Option.some.inj hloads
    have hstart := start_of_execute rfl hconfig (by decide +kernel) hc hexecute
    have hunload : Client.unloadPackets zeroClient.config = [] :=
      Client.unloadPackets_eq_nil fun h => h.2 (by decide +kernel)
    obtain ⟨es, r, hrun, hdone⟩ := Caller.exists_run_isDone
      (outcome.requests ++ outcome.client.close.2 ++ outcome.client.close.1.departure)
    refine ⟨_, outcome, es, r, hstart, rfl, rfl, rfl, rfl, hc, hexecute, hrun, hdone, ?_⟩
    rw [hclient, hsent] at hrun
    have harrivals := Client.arrivals_of_departure rfl rfl rfl
      [(zeroCommand.transport zeroClient.config, message)] hrun hdone
    rw [hunload] at harrivals
    have hstream : r.stream.messages = [message] := Outlet.messages_of_log (harrivals .stream)
    exact ⟨congrArg List.length hstream, Outlet.messages_of_log (harrivals .datagram)⟩

end CommandLine

end OscRemote
