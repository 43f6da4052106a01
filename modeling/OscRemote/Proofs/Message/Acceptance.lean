import Mathlib.Data.List.TakeDrop
import OscRemote.Proofs.Message.Decode

/-!
# Which messages have an encoding, and how long it is

Writing a message and finding its length go through its parts each in a way of its own.  Here both
are compared with a third thing, which does neither: `messageFault?` looks for what is wrong with a
message, in order, and `layout` puts down the parts of a message without asking whether anything is.
By `encode_eq` and `encodedSize_eq` the one gives `layout` and the other its length, unless there is
a fault; so they refuse the same messages for the same reason, and their lengths agree.

Every part of `layout` is as long as a multiple of four, whatever the message, so each part begins
at one.
-/

namespace OscRemote

-- Sums are those of the core library, whatever else is in scope.
attribute [local instance (2000)] Zero.ofOfNat0

/-! ## Faults -/

namespace Argument

/-- What is wrong with an argument that has no encoding: a zero in a text, a character outside
ASCII, or a type that is not written. -/
def fault? : Argument → Option MessageError
  | text value => if '\x00' ∈ value.toList then some .embeddedNul else none
  | character code => if code < 128 then none else some (.badValue 'c' (characterText code))
  | blob _ => some (.unsupportedTag 'b')
  | timeTag _ => some (.unsupportedTag 't')
  | rgba _ => some (.unsupportedTag 'r')
  | midi _ => some (.unsupportedTag 'm')
  | int32 _ | int64 _ | float32 _ | float64 _ | flag _ | nil | infinitum => none

/-- An argument that has an encoding. -/
structure IsWritable (arg : Argument) : Prop where
  tag_notMem : arg.tag ∉ ['b', 't', 'r', 'm']
  text : ∀ value, arg = .text value → '\x00' ∉ value.toList
  character : ∀ code, arg = .character code → code < 128

lemma fault?_eq_none_iff (arg : Argument) : arg.fault? = none ↔ arg.IsWritable := by
  constructor
  · intro h
    refine ⟨?_, ?_, ?_⟩
    · cases arg with
      | flag value => cases value <;> decide
      | text | character | int32 | int64 | float32 | float64 | nil | infinitum => simp [tag]
      | blob | timeTag | rgba | midi => cases h
    · rintro value rfl
      simpa [fault?] using h
    · rintro code rfl
      simpa [fault?] using h
  · rintro ⟨htag, htext, hcharacter⟩
    cases arg with
    | text value => simpa [fault?] using htext value rfl
    | character code => simpa [fault?] using hcharacter code rfl
    | int32 | int64 | float32 | float64 | flag | nil | infinitum => rfl
    | blob | timeTag | rgba | midi => exact absurd htag (by simp [tag])

end Argument

/-- The first fault of a message: its address has no slash in front, or has a zero in it, or an
argument has a fault. -/
def messageFault? (address : String) (args : List Argument) : Option MessageError :=
  if address.toList.head? ≠ some '/' then some (.address address)
  else if '\x00' ∈ address.toList then some .embeddedNul
  else args.findSome? Argument.fault?

lemma messageFault?_eq_none_iff (address : String) (args : List Argument) :
    messageFault? address args = none ↔ address.toList.head? = some '/' ∧
      '\x00' ∉ address.toList ∧ ∀ arg ∈ args, arg.IsWritable := by
  unfold messageFault?
  by_cases hslash : address.toList.head? = some '/'
  · rw [if_neg (not_not_intro hslash)]
    by_cases hzero : '\x00' ∈ address.toList
    · simp [hzero]
    · simp [hslash, hzero, List.findSome?_eq_none_iff, Argument.fault?_eq_none_iff]
  · simp [hslash]

/-! ## Parts -/

namespace Argument

/-- What is put down for the value of an argument, whether or not it has an encoding: nothing for a
marker, nor for a type that is not written. -/
def octets : Argument → Octets
  | int32 value => Octets.bigEndian 4 value.toUInt32.toNat
  | int64 value => Octets.bigEndian 8 value.toUInt64.toNat
  | float32 value => Octets.bigEndian 4 value.bits.toNat
  | float64 value => Octets.bigEndian 8 value.bits.toNat
  | text value => padded (octetsOf value)
  | character code => [code, 0, 0, 0]
  | flag _ | nil | infinitum | blob _ | timeTag _ | rgba _ | midi _ => []

lemma alignment_dvd_length_octets (arg : Argument) : alignment ∣ arg.octets.length := by
  cases arg with
  | text value =>
    rw [octets, length_padded]
    exact alignment_dvd_paddedLength _
  | int32 | float32 => exact ⟨1, Octets.length_bigEndian _ _⟩
  | int64 | float64 => exact ⟨2, Octets.length_bigEndian _ _⟩
  | character => exact ⟨1, rfl⟩
  | flag | nil | infinitum | blob | timeTag | rgba | midi => exact ⟨0, rfl⟩

end Argument

/-- A message part by part: its address, its tags and what is put down for its arguments. -/
def layout (address : String) (args : List Argument) : Octets :=
  padded (octetsOf address) ++ padded (octetsOf (typeTags args)) ++ args.flatMap Argument.octets

/-- Where the value of an argument begins, by the number of arguments before it. -/
def valueOffset (address : String) (args : List Argument) (i : Nat) : Nat :=
  paddedLength (octetsOf address).length + paddedLength (octetsOf (typeTags args)).length +
    ((args.take i).flatMap Argument.octets).length

lemma alignment_dvd_length_flatMap_octets (args : List Argument) :
    alignment ∣ (args.flatMap Argument.octets).length := by
  induction args with
  | nil => exact ⟨0, rfl⟩
  | cons arg args ih =>
    rw [List.flatMap_cons, List.length_append]
    exact Nat.dvd_add arg.alignment_dvd_length_octets ih

lemma alignment_dvd_valueOffset (address : String) (args : List Argument) (i : Nat) :
    alignment ∣ valueOffset address args i :=
  Nat.dvd_add (Nat.dvd_add (alignment_dvd_paddedLength _) (alignment_dvd_paddedLength _))
    (alignment_dvd_length_flatMap_octets _)

lemma length_layout (address : String) (args : List Argument) :
    (layout address args).length = valueOffset address args args.length := by
  rw [layout, List.length_append, List.length_append, length_padded, length_padded, valueOffset,
    List.take_length]

/-- What is put down for an argument stands where it is said to begin. -/
lemma drop_layout (address : String) (args : List Argument) (i : Nat) :
    (layout address args).drop (valueOffset address args i) =
      (args.drop i).flatMap Argument.octets := by
  have hsplit : layout address args =
      (padded (octetsOf address) ++ padded (octetsOf (typeTags args)) ++
        (args.take i).flatMap Argument.octets) ++ (args.drop i).flatMap Argument.octets := by
    rw [List.append_assoc, ← List.flatMap_append, List.take_append_drop, layout]
  rw [hsplit, List.drop_left']
  simp only [List.length_append, length_padded, valueOffset]

/-! ## Writing and measuring -/

/-- A value, unless there is a fault. -/
def unlessFault {α : Type} (value : α) : Option MessageError → Except MessageError α
  | some fault => .error fault
  | none => .ok value

lemma unlessFault_eq_error_iff {α : Type} {value : α} {fault? : Option MessageError}
    {e : MessageError} : unlessFault value fault? = .error e ↔ fault? = some e := by
  cases fault? <;> simp [unlessFault]

lemma unlessFault_eq_ok_iff {α : Type} {value result : α} {fault? : Option MessageError} :
    unlessFault value fault? = .ok result ↔ fault? = none ∧ result = value := by
  cases fault? <;> simp [unlessFault, eq_comm]

/-- Where each of several things has a value unless it has a fault, all of them together have their
values unless one has a fault, and the first that has one counts. -/
lemma mapM_unlessFault {α : Type} {f : Argument → Except MessageError α} {value : Argument → α}
    (h : ∀ arg, f arg = unlessFault (value arg) arg.fault?) (args : List Argument) :
    args.mapM f = unlessFault (args.map value) (args.findSome? Argument.fault?) := by
  induction args with
  | nil => rfl
  | cons arg args ih =>
    rw [List.mapM_cons, h arg, ih, List.findSome?_cons]
    cases arg.fault? with
    | some fault => rfl
    | none =>
      cases args.findSome? Argument.fault? with
      | some fault => rfl
      | none => rfl

lemma checkText_eq (s : String) :
    checkText s = unlessFault () (if '\x00' ∈ s.toList then some .embeddedNul else none) := by
  by_cases hzero : '\x00' ∈ s.toList
  · rw [checkText, if_pos (List.contains_iff_mem.2 hzero), if_pos hzero]
    rfl
  · rw [checkText, if_neg (mt List.contains_iff_mem.1 hzero), if_neg hzero]
    rfl

lemma length_octetsOf (s : String) : (octetsOf s).length = s.utf8ByteSize := rfl

namespace Argument

lemma payload_eq (arg : Argument) : arg.payload = unlessFault arg.octets arg.fault? := by
  cases arg with
  | text value =>
    rw [payload_text, checkText_eq, fault?]
    by_cases hzero : '\x00' ∈ value.toList
    · rw [if_pos hzero]
      rfl
    · rw [if_neg hzero]
      rfl
  | character code =>
    rw [payload_character, fault?]
    by_cases hascii : code < 128
    · rw [if_pos hascii, if_pos hascii]
      rfl
    · rw [if_neg hascii, if_neg hascii]
      rfl
  | int32 | int64 | float32 | float64 | flag | nil | infinitum | blob | timeTag | rgba | midi => rfl

lemma payloadSize_eq (arg : Argument) :
    arg.payloadSize = unlessFault arg.octets.length arg.fault? := by
  cases arg with
  | text value =>
    have hsize : (text value).payloadSize =
        (do
          checkText value
          pure (paddedLength value.utf8ByteSize)) := rfl
    rw [hsize, checkText_eq, fault?, octets, length_padded, length_octetsOf]
    by_cases hzero : '\x00' ∈ value.toList
    · rw [if_pos hzero]
      rfl
    · rw [if_neg hzero]
      rfl
  | character code =>
    have hsize : (character code).payloadSize =
        if code < 128 then pure 4 else throw (.badValue 'c' (characterText code)) := rfl
    rw [hsize, fault?]
    by_cases hascii : code < 128
    · rw [if_pos hascii, if_pos hascii]
      rfl
    · rw [if_neg hascii, if_neg hascii]
      rfl
  | int32 | float32 | int64 | float64 => simp only [octets, Octets.length_bigEndian]; rfl
  | flag | nil | infinitum | blob | timeTag | rgba | midi => rfl

end Argument

lemma checkAddress_eq (address : String) :
    checkAddress address = unlessFault () (messageFault? address []) := by
  rw [checkAddress, messageFault?, checkText_eq]
  by_cases hslash : address.toList.head? = some '/'
  · rw [if_neg (not_not_intro hslash), if_neg (not_not_intro hslash)]
    rfl
  · rw [if_pos hslash, if_pos hslash]
    rfl

/-- The faults of an address come before those of the arguments. -/
lemma messageFault?_eq (address : String) (args : List Argument) :
    messageFault? address args =
      (messageFault? address []).or (args.findSome? Argument.fault?) := by
  unfold messageFault?
  split
  · rfl
  · split
    · rfl
    · rfl

lemma length_octetsOf_typeTags (args : List Argument) :
    (octetsOf (typeTags args)).length = 1 + args.length := by
  rw [octetsOf_typeTags, List.length_cons, List.length_map, Nat.add_comm]

/-- Writing a message puts down its parts, unless there is a fault. -/
theorem encode_eq (address : String) (args : List Argument) :
    encode address args = unlessFault (layout address args) (messageFault? address args) := by
  rw [messageFault?_eq, encode, checkAddress_eq, mapM_unlessFault Argument.payload_eq]
  cases messageFault? address [] with
  | some fault => rfl
  | none =>
    cases args.findSome? Argument.fault? with
    | some fault => rfl
    | none =>
      show Except.ok _ = Except.ok _
      rw [layout, List.flatMap_def]

/-- The length of a message is divisible by four. -/
lemma alignment_dvd_length_encode {address : String} {args : List Argument} {bs : Octets}
    (h : encode address args = .ok bs) : alignment ∣ bs.length := by
  rw [encode_eq] at h
  obtain ⟨-, rfl⟩ := unlessFault_eq_ok_iff.1 h
  rw [length_layout]
  exact alignment_dvd_valueOffset address args _

/-- Finding the length of a message adds up those of its parts, unless there is a fault. -/
theorem encodedSize_eq (address : String) (args : List Argument) :
    encodedSize address args =
      unlessFault (layout address args).length (messageFault? address args) := by
  rw [messageFault?_eq, encodedSize, checkAddress_eq, mapM_unlessFault Argument.payloadSize_eq]
  cases messageFault? address [] with
  | some fault => rfl
  | none =>
    cases args.findSome? Argument.fault? with
    | some fault => rfl
    | none =>
      have hlength : (layout address args).length =
          paddedLength address.utf8ByteSize + paddedLength (1 + args.length) +
            (args.map fun arg => arg.octets.length).sum := by
        rw [length_layout, valueOffset, List.take_length, List.length_flatMap,
          length_octetsOf_typeTags, length_octetsOf]
      rw [hlength]
      rfl

/-- Finding the length of a message fails as writing it does, and else gives the length of what is
written; and writing is the same as finding the length first and then putting down the parts without
looking for faults.

A message is refused for the first of its faults: a slash is missing, there is a zero in the
address, or else what is wrong with the first argument that has no encoding.  All other messages are
written.  Then the length is divisible by four, and so is the offset of every part: of the tags, and
of the values, each of which stands at its own. -/
theorem encode_or_fault (address : String) (args : List Argument) :
    encodedSize address args = (encode address args).map List.length ∧
    encode address args = (encodedSize address args).map (fun _ => layout address args) ∧
    (∀ e, encode address args = .error e ↔ messageFault? address args = some e) ∧
    ((∃ bs, encode address args = .ok bs) ↔ address.toList.head? = some '/' ∧
      '\x00' ∉ address.toList ∧ ∀ arg ∈ args, arg.IsWritable) ∧
    ∀ bs, encode address args = .ok bs →
      alignment ∣ bs.length ∧
      alignment ∣ (padded (octetsOf address)).length ∧
      padded (octetsOf (typeTags args)) <+: bs.drop (padded (octetsOf address)).length ∧
      ∀ i, alignment ∣ valueOffset address args i ∧
        ∀ arg, args[i]? = some arg → arg.octets <+: bs.drop (valueOffset address args i) := by
  rw [encodedSize_eq, encode_eq]
  refine ⟨?_, ?_, fun e => unlessFault_eq_error_iff, ?_, ?_⟩
  · cases messageFault? address args <;> rfl
  · cases messageFault? address args <;> rfl
  · rw [← messageFault?_eq_none_iff]
    simp [unlessFault_eq_ok_iff]
  · intro bs hbs
    have haligned := alignment_dvd_length_encode ((encode_eq address args).trans hbs)
    obtain ⟨-, rfl⟩ := unlessFault_eq_ok_iff.1 hbs
    refine ⟨haligned, ?_, ?_, ?_⟩
    · rw [length_padded]
      exact alignment_dvd_paddedLength _
    · rw [layout, List.append_assoc, List.drop_left]
      exact List.prefix_append _ _
    · intro i
      refine ⟨alignment_dvd_valueOffset address args i, fun arg harg => ?_⟩
      obtain ⟨hlt, rfl⟩ := List.getElem?_eq_some_iff.1 harg
      rw [drop_layout, List.drop_eq_getElem_cons hlt, List.flatMap_cons]
      exact List.prefix_append _ _

/-- A text whose zeros fill four octets, with a marker before and a number behind it; and a message
whose second fault is a type that is not written. -/
theorem encode_or_fault_sample :
    (∃ bs, encode "/a" [.flag true, .text "abcd", .int64 (-2)] = .ok bs ∧
      encodedSize "/a" [.flag true, .text "abcd", .int64 (-2)] = .ok 28 ∧ bs.length = 28 ∧
      padded (octetsOf "abcd") <+: bs.drop 12) ∧
    encode "/a" [.flag true, .character 233, .blob []] = .error (.badValue 'c' "0xe9") := by
  obtain ⟨-, -, hfault, -, -⟩ := encode_or_fault "/a" [.flag true, .character 233, .blob []]
  obtain ⟨hsize, -, -, haccepts, hparts⟩ :=
    encode_or_fault "/a" [.flag true, .text "abcd", .int64 (-2)]
  refine ⟨?_, (hfault _).2 (by decide)⟩
  obtain ⟨bs, hbs⟩ := haccepts.2 ((messageFault?_eq_none_iff _ _).1 (by decide))
  have hlength : encodedSize "/a" [.flag true, .text "abcd", .int64 (-2)] = .ok 28 := by
    decide +kernel
  obtain ⟨-, -, -, hvalues⟩ := hparts bs hbs
  refine ⟨bs, hbs, hlength, ?_, (hvalues 1).2 (.text "abcd") rfl⟩
  rw [hlength, hbs] at hsize
  exact (Except.ok.inj hsize).symm

end OscRemote
