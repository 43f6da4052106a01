import OscRemote.Proofs.Client.Effect
import OscRemote.Proofs.Message.Acceptance

/-!
# Which operations fail

An operation fails only if its message has a fault, and then by the first that it has
(`Client.perform_eq_error_iff_fault`).  A client has a configuration that was checked: its base
address is empty or begins with a slash.  So of the faults that a message can have not many are left:
the built-in messages have a zero in the base address or none, and the address of a custom one lacks
its slash only where there is no base address and none was given (`messageFault?_append`).

Nothing else matters: not what was done before, nor what the transports have come to, nor which of
them is to carry the message.  This is so where every packet is accepted (`Answers.StartWorkers`);
`Client.performVia_cases` says what else comes of one that is not.
-/

namespace OscRemote

open Number (Single)

/-! ## Faults of built-in and of custom messages -/

/-- Behind an address that is right, the first fault is that of an argument. -/
lemma messageFault?_of_address {address : String} (args : List Argument)
    (hslash : address.toList.head? = some '/') (hzero : '\x00' ∉ address.toList) :
    messageFault? address args = args.findSome? Argument.fault? := by
  rw [messageFault?, if_neg (not_not_intro hslash), if_neg hzero]

namespace Config

variable {config : Config}

/-- Of an address that is put behind the base address, the slash is missing only if the base address
is empty. -/
lemma head?_append_eq_slash_iff (hvalid : config.fault? = none) (url : String) :
    (config.baseAddress ++ url).toList.head? = some '/' ↔
      ¬ (config.baseAddress = "" ∧ url.toList.head? ≠ some '/') := by
  rw [String.toList_append]
  obtain ⟨hempty | hslash, -⟩ := config.fault?_eq_none_iff.1 hvalid
  · simp [hempty]
  · have hne : config.baseAddress ≠ "" := by
      intro hempty
      rw [hempty] at hslash
      cases hslash
    simp [hslash, hne]

/-- The first fault of a custom message. -/
lemma messageFault?_append (hvalid : config.fault? = none) (url : String) (args : List Argument) :
    messageFault? (config.baseAddress ++ url) args =
      if config.baseAddress = "" ∧ url.toList.head? ≠ some '/' then some (.address url)
      else if '\x00' ∈ config.baseAddress.toList ∨ '\x00' ∈ url.toList then some .embeddedNul
      else args.findSome? Argument.fault? := by
  by_cases hslash : config.baseAddress = "" ∧ url.toList.head? ≠ some '/'
  · have hmissing := mt (head?_append_eq_slash_iff hvalid url).1 (not_not_intro hslash)
    rw [messageFault?, if_pos hmissing, if_pos hslash, hslash.1, String.empty_append]
  · have hfound := (head?_append_eq_slash_iff hvalid url).2 hslash
    rw [messageFault?, if_neg (not_not_intro hfound), if_neg hslash]
    simp only [String.toList_append, List.mem_append]

end Config

namespace Operation

variable {config : Config} {op : Operation} {kind : TransportKind} {m : Message}

/-- Whether the message of an operation names the project by its base address. -/
def namesProject : Operation → Bool
  | load | unload | mute _ | volume _ => true
  | _ => false

/-- Whether an operation has no message, or one in which nothing can be wrong. -/
def neverFails : Operation → Bool
  | systemMute _ | systemVolume _ | startBundle | endBundle | drain | close => true
  | _ => false

lemma messageFault?_of_neverFails (hop : op.neverFails = true)
    (h : op.message? config = some (kind, m)) : messageFault? m.address m.arguments = none := by
  cases op with
  | systemMute on =>
    cases h
    dsimp only
    exact messageFault?_of_address _ (by decide) (by decide)
  | systemVolume level =>
    obtain ⟨-, h⟩ := Option.ite_none_right_eq_some.1 h
    cases h
    dsimp only
    exact messageFault?_of_address _ (by decide) (by decide)
  | startBundle | endBundle | drain | close => cases h
  | load | unload | mute | volume | send => cases hop

/-- Of a message that names the project, only the base address can have a fault. -/
lemma messageFault?_of_namesProject (hop : op.namesProject = true)
    (h : op.message? config = some (kind, m)) : messageFault? m.address m.arguments =
      (Argument.text config.baseAddress).fault? := by
  have hfirst {address : String} {args : List Argument} (hslash : address.toList.head? = some '/')
      (hzero : '\x00' ∉ address.toList) (hargs : args.findSome? Argument.fault? = none) :
      messageFault? address (.text config.baseAddress :: args) =
        (Argument.text config.baseAddress).fault? := by
    rw [messageFault?_of_address _ hslash hzero, List.findSome?_cons, hargs]
    cases (Argument.text config.baseAddress).fault? <;> rfl
  cases op with
  | load | unload | mute =>
    cases h
    dsimp only
    exact hfirst (by decide) (by decide) rfl
  | volume level =>
    obtain ⟨-, h⟩ := Option.ite_none_right_eq_some.1 h
    cases h
    dsimp only
    exact hfirst (by decide) (by decide) rfl
  | systemMute | systemVolume | send | startBundle | endBundle | drain | close => cases hop

lemma exists_message?_of_namesProject (hop : op.namesProject = true) (hbounds : ¬ op.IsBeyondBounds)
    (config : Config) : ∃ kind m, op.message? config = some (kind, m) := by
  have hsending : op.isSending = true := by
    cases op with
    | load | unload | mute | volume => rfl
    | systemMute | systemVolume | send | startBundle | endBundle | drain | close => cases hop
  cases hmessage : op.message? config with
  | some packet => exact ⟨packet.1, packet.2, rfl⟩
  | none => exact absurd ((message?_eq_none_iff config hsending).1 hmessage) hbounds

end Operation

/-- The fault of the first argument that has one. -/
lemma findSome?_fault?_eq_some_iff {args : List Argument} {cause : MessageError} :
    args.findSome? Argument.fault? = some cause ↔
      ∃ before arg after, args = before ++ arg :: after ∧ (∀ a ∈ before, a.IsWritable) ∧
        arg.fault? = some cause := by
  rw [List.findSome?_eq_some_iff]
  constructor
  · rintro ⟨before, arg, after, hargs, hfault, hbefore⟩
    exact ⟨before, arg, after, hargs, fun a ha => a.fault?_eq_none_iff.1 (hbefore a ha), hfault⟩
  · rintro ⟨before, arg, after, hargs, hbefore, hfault⟩
    exact ⟨before, arg, after, hargs, hfault, fun a ha => a.fault?_eq_none_iff.2 (hbefore a ha)⟩

lemma exists_findSome?_fault?_iff {args : List Argument} :
    (∃ cause, args.findSome? Argument.fault? = some cause) ↔ ∃ arg ∈ args, ¬ arg.IsWritable := by
  rw [← Option.ne_none_iff_exists', Ne, List.findSome?_eq_none_iff]
  simp only [Argument.fault?_eq_none_iff, not_forall, exists_prop]

lemma Argument.fault?_ne_address (arg : Argument) (text : String) :
    arg.fault? ≠ some (.address text) := by
  intro h
  cases arg with
  | text value =>
    obtain ⟨-, h⟩ := Option.ite_none_right_eq_some.1 h
    cases h
  | character code =>
    obtain ⟨-, h⟩ := Option.ite_none_left_eq_some.1 h
    cases h
  | blob | timeTag | rgba | midi | int32 | int64 | float32 | float64 | flag | nil | infinitum =>
    cases h

/-! ## Operations that fail -/

namespace Client

variable {config : Config} {c : Client} {op : Operation}

lemma exists_ofConfig (hvalid : config.fault? = none) : ∃ c, ofConfig config = .ok c := by
  unfold ofConfig
  split
  case h_1 => exact ⟨_, rfl⟩
  case h_2 fault hfault => cases hvalid.symm.trans hfault

/-- An operation fails by the first fault of its message. -/
lemma perform_eq_error_iff_fault (c : Client) (op : Operation) (e : ClientError) :
    c.perform op = .error e ↔ ∃ kind m cause, op.message? c.config = some (kind, m) ∧
      messageFault? m.address m.arguments = some cause ∧ e = .encoding cause := by
  simp only [perform_eq_error_iff, Message.encode, encode_eq, unlessFault_eq_error_iff]

lemma exists_perform_eq_ok_of_neverFails (c : Client) (hop : op.neverFails = true) :
    ∃ outcome, c.perform op = .ok outcome := by
  cases hperform : c.perform op with
  | ok outcome => exact ⟨outcome, rfl⟩
  | error e =>
    obtain ⟨kind, m, cause, hmessage, hfault, -⟩ := (c.perform_eq_error_iff_fault op e).1 hperform
    rw [Operation.messageFault?_of_neverFails hop hmessage] at hfault
    cases hfault

lemma perform_eq_error_iff_of_namesProject (c : Client) (hop : op.namesProject = true)
    (hbounds : ¬ op.IsBeyondBounds) (e : ClientError) : c.perform op = .error e ↔
      '\x00' ∈ c.config.baseAddress.toList ∧ e = .encoding .embeddedNul := by
  obtain ⟨kind, m, hmessage⟩ := Operation.exists_message?_of_namesProject hop hbounds c.config
  have hfault := Operation.messageFault?_of_namesProject hop hmessage
  rw [Argument.fault?] at hfault
  rw [perform_eq_error_iff_fault]
  constructor
  · rintro ⟨kind', m', cause, hmessage', hcause, rfl⟩
    obtain ⟨-, rfl⟩ := Prod.mk.inj (Option.some.inj (hmessage.symm.trans hmessage'))
    obtain ⟨hzero, hsome⟩ := Option.ite_none_right_eq_some.1 (hfault.symm.trans hcause)
    exact ⟨hzero, by rw [Option.some.inj hsome]⟩
  · rintro ⟨hzero, rfl⟩
    exact ⟨kind, m, _, hmessage, hfault.trans (if_pos hzero), rfl⟩

/-- A custom message fails by its first fault, on either transport. -/
lemma perform_send_eq_error_iff (c : Client) (kind : TransportKind) (url : String)
    (args : List Argument) (e : ClientError) : c.perform (.send kind url args) = .error e ↔
      ∃ cause, messageFault? (c.config.baseAddress ++ url) args = some cause ∧
        e = .encoding cause := by
  rw [perform_eq_error_iff_fault]
  constructor
  · rintro ⟨kind', m, cause, hmessage, hfault, rfl⟩
    cases hmessage
    exact ⟨cause, hfault, rfl⟩
  · rintro ⟨cause, hfault, rfl⟩
    exact ⟨kind, _, cause, rfl, hfault, rfl⟩

/-- A custom message fails for its slash exactly if there is no base address to have one. -/
lemma perform_send_eq_address_iff (c : Client) (kind : TransportKind) (url : String)
    (args : List Argument) (text : String) :
    c.perform (.send kind url args) = .error (.encoding (.address text)) ↔
      c.config.baseAddress = "" ∧ url.toList.head? ≠ some '/' ∧ text = url := by
  rw [perform_send_eq_error_iff, Config.messageFault?_append c.isValid]
  constructor
  · rintro ⟨cause, hfault, hcause⟩
    obtain rfl := ClientError.encoding.inj hcause
    split at hfault
    case isTrue hslash =>
      cases hfault
      exact ⟨hslash.1, hslash.2, rfl⟩
    case isFalse =>
      split at hfault
      case isTrue => cases hfault
      case isFalse =>
        obtain ⟨_, arg, _, -, -, harg⟩ := findSome?_fault?_eq_some_iff.1 hfault
        exact absurd harg (arg.fault?_ne_address text)
  · rintro ⟨hempty, hslash, rfl⟩
    exact ⟨_, if_pos ⟨hempty, hslash⟩, rfl⟩

/-- Where its slash is not missing, a custom message fails for a zero, or by the first argument that
has no encoding. -/
lemma perform_send_eq_error_iff_of_slash (c : Client) (kind : TransportKind) {url : String}
    (hslash : ¬ (c.config.baseAddress = "" ∧ url.toList.head? ≠ some '/')) (args : List Argument)
    (e : ClientError) : c.perform (.send kind url args) = .error e ↔
      ('\x00' ∈ c.config.baseAddress.toList ∨ '\x00' ∈ url.toList) ∧ e = .encoding .embeddedNul ∨
      ¬ ('\x00' ∈ c.config.baseAddress.toList ∨ '\x00' ∈ url.toList) ∧
        ∃ before arg after cause, args = before ++ arg :: after ∧
          (∀ a ∈ before, a.IsWritable) ∧ arg.fault? = some cause ∧ e = .encoding cause := by
  rw [perform_send_eq_error_iff, Config.messageFault?_append c.isValid, if_neg hslash]
  by_cases hzero : '\x00' ∈ c.config.baseAddress.toList ∨ '\x00' ∈ url.toList
  · rw [if_pos hzero]
    constructor
    · rintro ⟨cause, hcause, rfl⟩
      exact Or.inl ⟨hzero, by rw [Option.some.inj hcause]⟩
    · rintro (⟨-, rfl⟩ | ⟨hnone, -⟩)
      · exact ⟨_, rfl, rfl⟩
      · exact absurd hzero hnone
  · rw [if_neg hzero]
    constructor
    · rintro ⟨cause, hcause, rfl⟩
      obtain ⟨before, arg, after, hargs, hbefore, harg⟩ := findSome?_fault?_eq_some_iff.1 hcause
      exact Or.inr ⟨hzero, before, arg, after, cause, hargs, hbefore, harg, rfl⟩
    · rintro (⟨hsome, -⟩ | ⟨-, before, arg, after, cause, hargs, hbefore, harg, rfl⟩)
      · exact absurd hsome hzero
      · exact ⟨cause, findSome?_fault?_eq_some_iff.2 ⟨before, arg, after, hargs, hbefore, harg⟩, rfl⟩

lemma exists_perform_send_eq_error_iff (c : Client) (kind : TransportKind) {url : String}
    (hslash : ¬ (c.config.baseAddress = "" ∧ url.toList.head? ≠ some '/'))
    (args : List Argument) : (∃ e, c.perform (.send kind url args) = .error e) ↔
      '\x00' ∈ c.config.baseAddress.toList ∨ '\x00' ∈ url.toList ∨
        ∃ arg ∈ args, ¬ arg.IsWritable := by
  have hcause : (∃ e, c.perform (.send kind url args) = .error e) ↔
      ∃ cause, messageFault? (c.config.baseAddress ++ url) args = some cause := by
    simp only [perform_send_eq_error_iff]
    exact ⟨fun ⟨_, cause, h, _⟩ => ⟨cause, h⟩, fun ⟨cause, h⟩ => ⟨_, cause, h, rfl⟩⟩
  rw [hcause, Config.messageFault?_append c.isValid, if_neg hslash, ← or_assoc]
  by_cases hzero : '\x00' ∈ c.config.baseAddress.toList ∨ '\x00' ∈ url.toList
  · rw [if_pos hzero]
    exact iff_of_true ⟨_, rfl⟩ (Or.inl hzero)
  · rw [if_neg hzero, exists_findSome?_fault?_iff]
    exact (or_iff_right hzero).symm

/-- Whether a custom message is sent does not depend on the transport. -/
lemma map_perform_send (c : Client) (kind : TransportKind) (url : String) (args : List Argument) :
    (c.perform (.send kind url args)).map (fun _ => ()) =
      ((encode (c.config.baseAddress ++ url) args).mapError ClientError.encoding).map
        fun _ => () := by
  have hperform : c.perform (.send kind url args) =
      c.sendMessage kind ⟨c.config.baseAddress ++ url, args⟩ := rfl
  rw [hperform, sendMessage, Message.encode]
  cases encode (c.config.baseAddress ++ url) args <;> rfl

/-- A client can be made of a configuration that was checked, and whatever it has come to, these are
the operations that fail.

Those about the Asset Manager itself, about bundles, draining and closing never fail; nor does a
volume out of bounds.  Those that name the project fail if there is a zero in the base address.  A
custom message fails for a missing slash if the base address is empty and none is given; else if
there is a zero in the base address or in the address behind it, or an argument has no encoding, and
by the first of these.  The transport makes no difference. -/
theorem perform_fails_iff {config : Config} (hvalid : config.fault? = none) :
    (∃ c, ofConfig config = .ok c) ∧ ∀ c : Client, c.config = config →
      (∀ op, op.neverFails = true → ∃ outcome, c.perform op = .ok outcome) ∧
      (∀ level, level.IsBeyondUnit → c.perform (.volume level) = .ok (c, [])) ∧
      (∀ op, op.namesProject = true → ¬ op.IsBeyondBounds → ∀ e, c.perform op = .error e ↔
        '\x00' ∈ config.baseAddress.toList ∧ e = .encoding .embeddedNul) ∧
      (∀ kind url args,
        (∀ text, c.perform (.send kind url args) = .error (.encoding (.address text)) ↔
          config.baseAddress = "" ∧ url.toList.head? ≠ some '/' ∧ text = url) ∧
        (¬ (config.baseAddress = "" ∧ url.toList.head? ≠ some '/') →
          ((∃ e, c.perform (.send kind url args) = .error e) ↔
            '\x00' ∈ config.baseAddress.toList ∨ '\x00' ∈ url.toList ∨
              ∃ arg ∈ args, ¬ arg.IsWritable) ∧
          ∀ e, c.perform (.send kind url args) = .error e ↔
            ('\x00' ∈ config.baseAddress.toList ∨ '\x00' ∈ url.toList) ∧
              e = .encoding .embeddedNul ∨
            ¬ ('\x00' ∈ config.baseAddress.toList ∨ '\x00' ∈ url.toList) ∧
              ∃ before arg after cause, args = before ++ arg :: after ∧
                (∀ a ∈ before, a.IsWritable) ∧ arg.fault? = some cause ∧ e = .encoding cause)) ∧
      ∀ url args, (c.perform (.send .stream url args)).map (fun _ => ()) =
        (c.perform (.send .datagram url args)).map fun _ => () := by
  refine ⟨exists_ofConfig hvalid, ?_⟩
  rintro c rfl
  refine ⟨fun op => c.exists_perform_eq_ok_of_neverFails, fun level hlevel => ?_,
    fun op => c.perform_eq_error_iff_of_namesProject, fun kind url args => ⟨?_, fun hslash => ?_⟩,
    fun url args => ?_⟩
  · have hnone : (Operation.volume level).message? c.config = none :=
      (Operation.message?_eq_none_iff c.config rfl).2 hlevel
    rw [c.perform_of_isSending rfl, sendOperation, hnone]
    rfl
  · exact c.perform_send_eq_address_iff kind url args
  · exact ⟨c.exists_perform_send_eq_error_iff kind hslash args,
      c.perform_send_eq_error_iff_of_slash kind hslash args⟩
  · rw [map_perform_send, map_perform_send]

/-- A configuration whose base address has a zero in it. -/
def zeroBase : Config where
  baseAddress := "/a\x00"

/-- A client with a bundle open and no base address, and one with a zero in its base address that was
closed. -/
theorem perform_fails_iff_sample :
    ∃ c d : Client, c.config = {} ∧ c.isBundling = true ∧ d.config = zeroBase ∧ d.closed = true ∧
      c.perform (.send .datagram "x" [.blob [1]]) = .error (.encoding (.address "x")) ∧
      c.perform (.send .stream "/x" [.character 7, .character 200, .text "\x00"]) =
        .error (.encoding (.badValue 'c' "0xc8")) ∧
      d.perform (.mute true) = .error (.encoding .embeddedNul) ∧
      ∃ outcome, d.perform (.systemVolume .nan) = .ok outcome := by
  have hvalid : ({} : Config).fault? = none := by decide
  have hvalid' : zeroBase.fault? = none := by decide +kernel
  obtain ⟨⟨c, hc⟩, hfails⟩ := perform_fails_iff hvalid
  obtain ⟨⟨d, hd⟩, hfails'⟩ := perform_fails_iff hvalid'
  obtain ⟨hconfig, -⟩ := of_ofConfig hc
  obtain ⟨hconfig', -⟩ := of_ofConfig hd
  let bundling : Client := (c.performAll [.startBundle]).1
  let closed : Client := (d.performAll [.close]).1
  obtain ⟨-, -, -, hcustom, -⟩ := hfails bundling hconfig
  obtain ⟨hnever, -, hproject, -⟩ := hfails' closed ((d.performAll_stays [.close]).1.trans hconfig')
  refine ⟨bundling, closed, hconfig, rfl, (d.performAll_stays [.close]).1.trans hconfig', rfl, ?_, ?_,
    ?_, hnever _ rfl⟩
  · exact ((hcustom .datagram "x" [.blob [1]]).1 "x").2 ⟨rfl, by decide, rfl⟩
  · obtain ⟨-, hslash⟩ := hcustom .stream "/x" [.character 7, .character 200, .text "\x00"]
    obtain ⟨-, herror⟩ := hslash (by decide)
    refine (herror _).2 (Or.inr ⟨by decide, [.character 7], .character 200, [.text "\x00"], _, rfl,
      ?_, rfl, rfl⟩)
    intro arg harg
    rw [List.mem_singleton.1 harg]
    exact (Argument.fault?_eq_none_iff _).1 rfl
  · exact (hproject (.mute true) rfl id _).2 ⟨by decide +kernel, rfl⟩

end Client

end OscRemote
