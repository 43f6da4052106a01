import OscRemote.Proofs.Message.Acceptance
import OscRemote.Proofs.Number.Binary

/-!
# Messages that are the same, and messages that are written alike

Messages are compared with their floating-point values as numbers: a pattern that stands for no
number is the same as nothing, and a zero is the same as the zero of the other sign.  Octets know
neither exception, so messages can be the same and be written differently, and the other way round.

Both sides are led back to equality of messages, pattern by pattern.  By `Message.same_iff` two
messages are the same if every pattern in them stands for a number and they are equal once every
negative zero is a positive one; by `Message.encode_eq_ok_iff` two messages are written alike only
if they are equal.  So the two meet once the negative zeros are gone
(`Message.same_iff_encoded_alike`).
-/

namespace OscRemote

open Number (Single Double)

namespace Argument

/-- Whether the value of an argument is a pattern that stands for no number. -/
def isNan : Argument → Bool
  | float32 value => value.isNan
  | float64 value => value.isNan
  | _ => false

/-- The argument with the positive zero of its type in place of the negative one. -/
def withoutNegativeZero : Argument → Argument
  | float32 value => float32 value.withoutNegativeZero
  | float64 value => float64 value.withoutNegativeZero
  | arg => arg

@[simp] lemma isNan_withoutNegativeZero (arg : Argument) :
    arg.withoutNegativeZero.isNan = arg.isNan := by
  cases arg with
  | float32 value => exact value.isNan_withoutNegativeZero
  | float64 value => exact value.isNan_withoutNegativeZero
  | _ => rfl

@[simp] lemma fault?_withoutNegativeZero (arg : Argument) :
    arg.withoutNegativeZero.fault? = arg.fault? := by
  cases arg <;> rfl

/-- Two arguments are the same exactly if every pattern in them stands for a number and they are
equal but for the signs of zeros; so arguments of two types never are. -/
lemma same_iff (a b : Argument) : a.same b = true ↔
    a.isNan = false ∧ b.isNan = false ∧ a.withoutNegativeZero = b.withoutNegativeZero := by
  cases a with
  | float32 x =>
    cases b with
    | float32 y => simpa [same, isNan, withoutNegativeZero] using x.sameNumber_iff y
    | _ => simp [same, withoutNegativeZero]
  | float64 x =>
    cases b with
    | float64 y => simpa [same, isNan, withoutNegativeZero] using x.sameNumber_iff y
    | _ => simp [same, withoutNegativeZero]
  | _ => cases b <;> simp [same, isNan, withoutNegativeZero]

end Argument

/-- Lists of arguments are compared place by place, so what holds of the places holds of the
lists. -/
lemma sameArguments_iff (as bs : List Argument) : sameArguments as bs = true ↔
    as.any Argument.isNan = false ∧ bs.any Argument.isNan = false ∧
      as.map Argument.withoutNegativeZero = bs.map Argument.withoutNegativeZero := by
  induction as generalizing bs with
  | nil => cases bs <;> simp [sameArguments]
  | cons a as ih =>
    cases bs with
    | nil => simp [sameArguments]
    | cons b bs =>
      rw [sameArguments, Bool.and_eq_true, Argument.same_iff, ih]
      simp only [List.any_cons, Bool.or_eq_false_iff, List.map_cons, List.cons.injEq]
      tauto

namespace Message

/-- Whether the message has an argument with a pattern that stands for no number. -/
def hasNan (m : Message) : Bool :=
  m.arguments.any Argument.isNan

/-- The message with every negative zero replaced by the positive zero of its type. -/
def withoutNegativeZeros (m : Message) : Message :=
  { m with arguments := m.arguments.map Argument.withoutNegativeZero }

/-- Two messages are the same exactly if every pattern in them stands for a number and they are
equal but for the signs of zeros. -/
lemma same_iff (m n : Message) : m.same n = true ↔
    m.hasNan = false ∧ n.hasNan = false ∧ m.withoutNegativeZeros = n.withoutNegativeZeros := by
  rw [same, Bool.and_eq_true, beq_iff_eq, sameArguments_iff, hasNan, hasNan, withoutNegativeZeros,
    withoutNegativeZeros, mk.injEq]
  tauto

/-- A message with a pattern that stands for no number is the same as no message. -/
lemma same_eq_false_of_hasNan {m : Message} (h : m.hasNan = true) (n : Message) :
    m.same n = false ∧ n.same m = false := by
  constructor
  · refine Bool.eq_false_iff.2 fun hsame => ?_
    have hnan := ((same_iff m n).1 hsame).1
    cases h.symm.trans hnan
  · refine Bool.eq_false_iff.2 fun hsame => ?_
    have hnan := ((same_iff n m).1 hsame).2.1
    cases h.symm.trans hnan

/-! ## Writing -/

/-- A message that can be written can be written whatever the signs of its zeros: these are no part
of any fault. -/
lemma exists_encode_withoutNegativeZeros {m : Message} {bs : Octets} (h : m.encode = .ok bs) :
    ∃ cs, m.withoutNegativeZeros.encode = .ok cs := by
  have hfault : messageFault? m.address (m.arguments.map Argument.withoutNegativeZero) =
      messageFault? m.address m.arguments := by
    simp [messageFault?, List.findSome?_map, Function.comp_def]
  rw [encode, encode_eq] at h
  obtain ⟨hnone, -⟩ := unlessFault_eq_ok_iff.1 h
  rw [encode, encode_eq, withoutNegativeZeros, hfault, hnone]
  exact ⟨_, rfl⟩

/-- The octets of a message are those of no other. -/
lemma encode_eq_ok_iff {m : Message} {bs : Octets} (h : m.encode = .ok bs) (n : Message) :
    n.encode = .ok bs ↔ n = m := by
  constructor
  · intro hn
    have hread := (decode_append_of_encode hn []).symm.trans (decode_append_of_encode h [])
    simp only [Option.some.injEq, Prod.mk.injEq, and_true] at hread
    cases n
    cases m
    rw [mk.injEq]
    exact hread
  · rintro rfl
    exact h

/-- How messages that can be written compare with their octets.

If every pattern in both stands for a number, they are the same exactly if they are written alike
once every negative zero is replaced by the positive zero of its type, and both can still be written
then.  A message with a pattern that stands for no number is the same as no message, itself
included, whether or not the other one can be written; yet it is written as the same octets each
time, and these are the octets of no other message. -/
theorem same_iff_encoded_alike {m n : Message} {bs bs' : Octets}
    (hm : m.encode = .ok bs) (hn : n.encode = .ok bs') :
    (∃ cs cs', m.withoutNegativeZeros.encode = .ok cs ∧ n.withoutNegativeZeros.encode = .ok cs' ∧
      (m.hasNan = false → n.hasNan = false → (m.same n = true ↔ cs = cs'))) ∧
    (m.hasNan = true → ∀ k, m.same k = false ∧ k.same m = false) ∧
    ∀ k : Message, k.encode = .ok bs ↔ k = m := by
  obtain ⟨cs, hcs⟩ := exists_encode_withoutNegativeZeros hm
  obtain ⟨cs', hcs'⟩ := exists_encode_withoutNegativeZeros hn
  refine ⟨⟨cs, cs', hcs, hcs', fun hmnan hnnan => ?_⟩, same_eq_false_of_hasNan, encode_eq_ok_iff hm⟩
  calc m.same n = true
    _ ↔ m.withoutNegativeZeros = n.withoutNegativeZeros := by simp [same_iff, hmnan, hnnan]
    _ ↔ m.withoutNegativeZeros.encode = .ok cs' := (encode_eq_ok_iff hcs' _).symm
    _ ↔ cs = cs' := by rw [hcs, Except.ok.injEq]

/-- A message of two numbers with a marker between them. -/
def ofNumbers (x : Single) (y : Double) : Message where
  address := "/a"
  arguments := [.float32 x, .flag true, .float64 y]

/-- The octets of a message of two numbers that are written as these. -/
def octetsOfNumbers (x y : Octets) : Octets :=
  [47, 97, 0, 0, 44, 102, 84, 100, 0, 0, 0, 0] ++ x ++ y

/-- Zeros of opposite signs at both widths; and a pattern that stands for no number, beside another
one. -/
theorem same_iff_encoded_alike_zeros :
    (ofNumbers .negativeZero .zero).encode =
      .ok (octetsOfNumbers [128, 0, 0, 0] [0, 0, 0, 0, 0, 0, 0, 0]) ∧
    (ofNumbers .zero .negativeZero).encode =
      .ok (octetsOfNumbers [0, 0, 0, 0] [128, 0, 0, 0, 0, 0, 0, 0]) ∧
    (ofNumbers .negativeZero .zero).same (ofNumbers .zero .negativeZero) = true ∧
    (ofNumbers ⟨0xFF800001⟩ .zero).encode =
      .ok (octetsOfNumbers [255, 128, 0, 1] [0, 0, 0, 0, 0, 0, 0, 0]) ∧
    (ofNumbers ⟨0xFF800001⟩ .zero).same (ofNumbers ⟨0xFF800001⟩ .zero) = false ∧
    (ofNumbers .nan .zero).encode ≠
      .ok (octetsOfNumbers [255, 128, 0, 1] [0, 0, 0, 0, 0, 0, 0, 0]) := by
  have h : (ofNumbers .negativeZero .zero).encode =
      .ok (octetsOfNumbers [128, 0, 0, 0] [0, 0, 0, 0, 0, 0, 0, 0]) := by rfl
  have h' : (ofNumbers .zero .negativeZero).encode =
      .ok (octetsOfNumbers [0, 0, 0, 0] [128, 0, 0, 0, 0, 0, 0, 0]) := by rfl
  have hnan : (ofNumbers ⟨0xFF800001⟩ .zero).encode =
      .ok (octetsOfNumbers [255, 128, 0, 1] [0, 0, 0, 0, 0, 0, 0, 0]) := by rfl
  obtain ⟨⟨cs, cs', hcs, hcs', hsame⟩, -, -⟩ := same_iff_encoded_alike h h'
  obtain ⟨-, hunequal, hothers⟩ := same_iff_encoded_alike hnan hnan
  have hzeros : (ofNumbers .negativeZero .zero).withoutNegativeZeros =
      (ofNumbers .zero .negativeZero).withoutNegativeZeros := by decide
  rw [hzeros, hcs'] at hcs
  refine ⟨h, h', (hsame (by decide) (by decide)).2 (Except.ok.inj hcs).symm, hnan, ?_, ?_⟩
  · exact (hunequal (by decide) _).1
  · exact mt (hothers (ofNumbers .nan .zero)).1 (by decide)

end Message

end OscRemote
