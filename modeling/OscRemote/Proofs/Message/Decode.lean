import OscRemote.Proofs.Message.Encode

/-!
# Reading undoes writing

A message that was written is read back, whatever follows it: the address, every argument and what
follows.  Floating-point values come back bit by bit, those that stand for no number included.

The type tags are read before the values, so the induction is on the arguments, with the tags and
the values of those that are left side by side (`readArguments?_payloads`).  That the format is
injective and that no message begins another follow from what is left over.
-/

namespace OscRemote

namespace Argument

/-! ## Tags -/

/-- The octet of an argument's tag. -/
def tagOctet (arg : Argument) : UInt8 := UInt8.ofNat arg.tag.toNat

lemma tag_toNat (arg : Argument) : 0 < arg.tag.toNat ∧ arg.tag.toNat < 128 := by
  cases arg with
  | flag value => cases value <;> decide
  | _ => simp [tag]

@[simp] lemma ofNat_tagOctet (arg : Argument) : Char.ofNat arg.tagOctet.toNat = arg.tag := by
  have hlt : arg.tag.toNat < 256 := by
    have := arg.tag_toNat
    omega
  rw [tagOctet, UInt8.toNat_ofNat_of_lt' hlt, Char.ofNat_toNat]

lemma tagOctet_ne_zero (arg : Argument) : arg.tagOctet ≠ 0 := by
  intro h
  have hzero : 0 = UInt8.ofNat arg.tag.toNat := h.symm
  rw [zero_eq_ofNat_iff] at hzero
  have := arg.tag_toNat
  omega

end Argument

/-- The octets of the type tags: a comma, and one octet for every argument. -/
lemma octetsOf_typeTags (args : List Argument) :
    octetsOf (typeTags args) = 44 :: args.map Argument.tagOctet := by
  have htags : (args.map Argument.tag).flatMap String.utf8EncodeChar =
      args.map Argument.tagOctet := by
    rw [List.flatMap_map]
    induction args with
    | nil => rfl
    | cons arg args ih =>
      rw [List.flatMap_cons, ih, utf8EncodeChar_of_lt arg.tag_toNat.2]
      rfl
  rw [typeTags, octetsOf_ofList, List.flatMap_cons, htags]
  rfl

lemma zero_notMem_typeTags (args : List Argument) : 0 ∉ octetsOf (typeTags args) := by
  rw [octetsOf_typeTags, List.mem_cons, List.mem_map]
  rintro (h | ⟨arg, -, h⟩)
  · cases h
  · exact arg.tagOctet_ne_zero h

/-! ## Values -/

lemma readNat?_bigEndian_uint32 (value : UInt32) (rest : Octets) :
    Octets.readNat? 4 (Octets.bigEndian 4 value.toNat ++ rest) = some (value.toNat, rest) := by
  have hlt : value.toNat < 256 ^ 4 := value.toNat_lt
  rw [Octets.readNat?_bigEndian, Nat.mod_eq_of_lt hlt]

lemma readNat?_bigEndian_uint64 (value : UInt64) (rest : Octets) :
    Octets.readNat? 8 (Octets.bigEndian 8 value.toNat ++ rest) = some (value.toNat, rest) := by
  have hlt : value.toNat < 256 ^ 8 := value.toNat_lt
  rw [Octets.readNat?_bigEndian, Nat.mod_eq_of_lt hlt]

namespace Argument

/-- A value that was written is read back under its tag. -/
lemma readArgument?_payload {arg : Argument} {bs : Octets} (h : arg.payload = .ok bs)
    (rest : Octets) : readArgument? arg.tagOctet (bs ++ rest) = some (arg, rest) := by
  unfold readArgument?
  rw [ofNat_tagOctet]
  cases arg with
  | int32 value =>
    obtain rfl := Except.ok.inj h
    have hvalue : (UInt32.ofNat value.toUInt32.toNat).toInt32 = value := by
      rw [UInt32.ofNat_toNat, Int32.toInt32_toUInt32]
    simp only [tag, readNat?_bigEndian_uint32, Option.map_some, hvalue]
  | int64 value =>
    obtain rfl := Except.ok.inj h
    have hvalue : (UInt64.ofNat value.toUInt64.toNat).toInt64 = value := by
      rw [UInt64.ofNat_toNat, Int64.toInt64_toUInt64]
    simp only [tag, readNat?_bigEndian_uint64, Option.map_some, hvalue]
  | float32 value =>
    obtain rfl := Except.ok.inj h
    simp [tag, readNat?_bigEndian_uint32]
  | float64 value =>
    obtain rfl := Except.ok.inj h
    simp [tag, readNat?_bigEndian_uint64]
  | text value =>
    obtain ⟨_, hcheck, hbs⟩ := exists_of_bind_eq_ok h
    obtain rfl := Except.ok.inj hbs
    have hread := readPadded?_padded_append (zero_notMem_of_checkText hcheck) rest
    simp [tag, hread]
  | character code =>
    obtain rfl := of_payload_character h
    rfl
  | flag value =>
    obtain rfl := Except.ok.inj h
    cases value <;> rfl
  | nil =>
    obtain rfl := Except.ok.inj h
    rfl
  | infinitum =>
    obtain rfl := Except.ok.inj h
    rfl
  | blob | timeTag | rgba | midi => cases h

end Argument

/-- The values of arguments are read back in order.  Tags and values are two lists, of which every
step takes the first. -/
lemma readArguments?_payloads {args : List Argument} {payloads : List Octets}
    (h : args.mapM Argument.payload = .ok payloads) (rest : Octets) :
    readArguments? (args.map Argument.tagOctet) (payloads.flatten ++ rest) =
      some (args, rest) := by
  induction args generalizing payloads with
  | nil =>
    obtain rfl := Except.ok.inj h
    rfl
  | cons arg args ih =>
    obtain ⟨first, others, hfirst, hothers, rfl⟩ := of_mapM_payload_cons h
    rw [List.flatten_cons, List.append_assoc, List.map_cons, readArguments?,
      Argument.readArgument?_payload hfirst, Option.bind_eq_bind, Option.bind_some]
    dsimp only
    rw [ih hothers]
    rfl

/-! ## Messages -/

/-- A message that was written is read back, and what follows it is left. -/
lemma decode_append_of_encode {address : String} {args : List Argument} {bs : Octets}
    (h : encode address args = .ok bs) (rest : Octets) :
    decode (bs ++ rest) = some (address, args, rest) := by
  obtain ⟨hcheck, payloads, hpayloads, rfl⟩ := of_encode h
  have haddress : 0 ∉ octetsOf address := (of_checkAddress hcheck).2
  have htags := zero_notMem_typeTags args
  rw [octetsOf_typeTags] at htags
  rw [octetsOf_typeTags, List.append_assoc, List.append_assoc, decode,
    readPadded?_padded_append haddress, Option.bind_eq_bind, Option.bind_some]
  dsimp only
  rw [textOf?_octetsOf, Option.bind_eq_bind, Option.bind_some, readPadded?_padded_append htags,
    Option.bind_eq_bind, Option.bind_some]
  dsimp only
  rw [readArguments?_payloads hpayloads]
  rfl

/-- Reading undoes writing, whatever follows the message: so no two messages are written alike, and
no message that was written begins another. -/
theorem decode_encode {address address' : String} {args args' : List Argument} {bs bs' : Octets}
    (h : encode address args = .ok bs) (h' : encode address' args' = .ok bs') :
    (∀ rest, decode (bs ++ rest) = some (address, args, rest)) ∧
    (bs = bs' ↔ address = address' ∧ args = args') ∧
    (bs <+: bs' → bs = bs') := by
  refine ⟨decode_append_of_encode h, ⟨?_, ?_⟩, ?_⟩
  · rintro rfl
    have heq := (decode_append_of_encode h []).symm.trans (decode_append_of_encode h' [])
    simpa using heq
  · rintro ⟨rfl, rfl⟩
    exact Except.ok.inj (h.symm.trans h')
  · rintro ⟨rest, rfl⟩
    -- What is left over after the shorter message is read must be what is left after the longer.
    have hread := decode_append_of_encode h' []
    rw [List.append_nil, decode_append_of_encode h rest] at hread
    simp only [Option.some.injEq, Prod.mk.injEq] at hread
    obtain ⟨-, -, rfl⟩ := hread
    rw [List.append_nil]

/-- A pattern of 32 bits between a character that is zero and a marker. -/
def patternArguments (bits : UInt32) : List Argument :=
  [.text "", .character 0, .float32 ⟨bits⟩, .flag true]

/-- The octets of a message of such arguments. -/
def patternMessage (octets : Octets) : Octets :=
  [47, 97, 0, 0, 44, 115, 99, 102, 84, 0, 0, 0, 0, 0, 0, 0, 0, 0, 0, 0] ++ octets

/-- Two patterns that stand for no number are written as they are, and are told apart. -/
theorem decode_encode_nan :
    encode "/a" (patternArguments 0xFFC00001) = .ok (patternMessage [255, 192, 0, 1]) ∧
    encode "/a" (patternArguments 0x7F800001) = .ok (patternMessage [127, 128, 0, 1]) ∧
    decode (patternMessage [255, 192, 0, 1] ++ [0, 47]) =
      some ("/a", patternArguments 0xFFC00001, [0, 47]) ∧
    ¬ patternMessage [255, 192, 0, 1] <+: patternMessage [127, 128, 0, 1] := by
  have h : encode "/a" (patternArguments 0xFFC00001) = .ok (patternMessage [255, 192, 0, 1]) := by
    rfl
  have h' : encode "/a" (patternArguments 0x7F800001) = .ok (patternMessage [127, 128, 0, 1]) := by
    rfl
  obtain ⟨hread, hsame, hbegin⟩ := decode_encode h h'
  refine ⟨h, h', hread [0, 47], fun hstart => ?_⟩
  exact absurd (hsame.1 (hbegin hstart)).2 (by decide)

end OscRemote
