import Mathlib.Tactic.Lemma
import OscRemote.Message.Decode

/-!
# Texts with zeros behind them

A text is written with one to four zeros behind it, so it can be told where it ends only if it has
no zero of its own.  `checkText` refuses the texts that have one, which is said of characters there;
`zero_mem_octetsOf_iff` says the same of octets, since UTF-8 has a zero only where a text has one.
`readPadded?_padded_append` reads a text back whatever follows its zeros, zeros included.
-/

namespace OscRemote

/-! ## Octets of texts -/

lemma octetsOf_eq_flatMap (s : String) : octetsOf s = s.toList.flatMap String.utf8EncodeChar := by
  have h : s.toList.utf8Encode = s.toByteArray := String.utf8Encode_toList
  rw [octetsOf, ← h, List.utf8Encode, List.toList_data_toByteArray]

lemma octetsOf_ofList (cs : List Char) :
    octetsOf (String.ofList cs) = cs.flatMap String.utf8EncodeChar := by
  rw [octetsOf_eq_flatMap, String.toList_ofList]

/-- A character of ASCII is written as one octet. -/
lemma utf8EncodeChar_of_lt {c : Char} (h : c.toNat < 128) :
    String.utf8EncodeChar c = [UInt8.ofNat c.toNat] := by
  have hle : c.val.toNat ≤ 127 := Nat.le_of_lt_succ h
  rw [String.utf8EncodeChar, if_pos hle]
  rfl

lemma zero_eq_ofNat_iff (n : Nat) : (0 : UInt8) = UInt8.ofNat n ↔ n % 256 = 0 := by
  rw [← UInt8.toNat_inj, UInt8.toNat_ofNat', eq_comm]
  rfl

/-- Only the character zero is written with an octet that is zero: the first octet of any other
carries a mark or the character itself, and those after it carry a mark. -/
lemma zero_mem_utf8EncodeChar_iff (c : Char) :
    (0 : UInt8) ∈ String.utf8EncodeChar c ↔ c = '\x00' := by
  have hzero : c = '\x00' ↔ c.val.toNat = 0 := by
    rw [Char.ext_iff, ← UInt32.toNat_inj]
    rfl
  have hbound : c.val.toNat < 0x110000 := by
    have := c.valid
    unfold UInt32.isValidChar Nat.isValidChar at this
    omega
  rw [hzero]
  unfold String.utf8EncodeChar
  generalize c.val.toNat = v at hbound ⊢
  dsimp only
  split
  case isTrue h =>
    rw [List.mem_singleton, zero_eq_ofNat_iff]
    omega
  case isFalse h =>
    split
    · simp only [List.mem_cons, List.not_mem_nil, or_false, zero_eq_ofNat_iff]
      omega
    · split
      · simp only [List.mem_cons, List.not_mem_nil, or_false, zero_eq_ofNat_iff]
        omega
      · simp only [List.mem_cons, List.not_mem_nil, or_false, zero_eq_ofNat_iff]
        omega

/-- The octets of a text have a zero exactly if the text has one. -/
lemma zero_mem_octetsOf_iff (s : String) : (0 : UInt8) ∈ octetsOf s ↔ '\x00' ∈ s.toList := by
  rw [octetsOf_eq_flatMap, List.mem_flatMap]
  constructor
  · rintro ⟨c, hc, hzero⟩
    rwa [(zero_mem_utf8EncodeChar_iff c).1 hzero] at hc
  · intro h
    exact ⟨_, h, (zero_mem_utf8EncodeChar_iff _).2 rfl⟩

/-- A text that is accepted has no octet that is zero. -/
lemma zero_notMem_of_checkText {s : String} (h : checkText s = .ok ()) : 0 ∉ octetsOf s := by
  rw [zero_mem_octetsOf_iff]
  unfold checkText at h
  split at h
  case isTrue => cases h
  case isFalse hc => simpa using hc

/-- An address that is accepted begins with a slash and has no octet that is zero. -/
lemma of_checkAddress {address : String} (h : checkAddress address = .ok ()) :
    address.toList.head? = some '/' ∧ 0 ∉ octetsOf address := by
  unfold checkAddress at h
  by_cases hslash : address.toList.head? = some '/'
  · rw [if_neg (not_not_intro hslash)] at h
    exact ⟨hslash, zero_notMem_of_checkText h⟩
  · rw [if_pos hslash] at h
    cases h

/-! ## Zeros behind texts -/

lemma lt_paddedLength (n : Nat) : n < paddedLength n := by
  unfold paddedLength alignment
  omega

lemma alignment_dvd_paddedLength (n : Nat) : alignment ∣ paddedLength n :=
  Nat.dvd_mul_left alignment _

@[simp] lemma length_padded (bs : Octets) : (padded bs).length = paddedLength bs.length := by
  have := lt_paddedLength bs.length
  rw [padded, List.length_append, List.length_replicate]
  omega

/-- The zeros behind a text are more than none. -/
lemma padded_eq_append_cons (bs : Octets) :
    ∃ zeros, padded bs = bs ++ 0 :: zeros := by
  have hpos : 0 < paddedLength bs.length - bs.length := Nat.sub_pos_of_lt (lt_paddedLength _)
  obtain ⟨n, hn⟩ := Nat.exists_eq_succ_of_ne_zero (Nat.ne_of_gt hpos)
  exact ⟨List.replicate n 0, by rw [padded, hn, List.replicate_succ]⟩

/-- A text without a zero of its own is read back, whatever follows its zeros. -/
lemma readPadded?_padded_append {bs : Octets} (h : 0 ∉ bs) (rest : Octets) :
    readPadded? (padded bs ++ rest) = some (bs, rest) := by
  have hcontent : (padded bs ++ rest).takeWhile (· != 0) = bs := by
    obtain ⟨zeros, hzeros⟩ := padded_eq_append_cons bs
    rw [hzeros, List.append_assoc, List.takeWhile_append_of_pos]
    · simp
    · intro b hb
      have hne : b ≠ 0 := fun heq => h (heq ▸ hb)
      simpa using hne
  have htake : (padded bs ++ rest).take (paddedLength bs.length) = padded bs := by
    rw [← length_padded, List.take_left]
  have hdrop : (padded bs ++ rest).drop (paddedLength bs.length) = rest := by
    rw [← length_padded, List.drop_left]
  simp only [readPadded?, hcontent, htake, hdrop, if_true]

end OscRemote
