/-!
# Octets

A packet is a list of octets in the order in which they travel.  Numbers are written with their
most significant octet first: `bigEndian` writes a number in a given number of octets and
`ofBigEndian` reads one back, `ofBigEndian_bigEndian` being the law that ties the two.
-/

namespace OscRemote

-- Powers are those that numbers come with, whatever else is in scope.
attribute [local instance (2000)] instPowNat

/-- Octets in the order in which they are sent. -/
abbrev Octets := List UInt8

namespace Octets

/-- The number `n` in `width` octets, the most significant first; what does not fit is cut off at
the top. -/
def bigEndian : (width n : Nat) → Octets
  | 0, _ => []
  | width + 1, n => bigEndian width (n / 256) ++ [UInt8.ofNat n]

/-- The number that the octets spell, the most significant first. -/
def ofBigEndian (bs : Octets) : Nat :=
  bs.foldl (fun n b => 256 * n + b.toNat) 0

@[simp] theorem length_bigEndian (width n : Nat) : (bigEndian width n).length = width := by
  induction width generalizing n with
  | zero => rfl
  | succ width ih => simp [bigEndian, ih]

theorem ofBigEndian_append_singleton (bs : Octets) (b : UInt8) :
    ofBigEndian (bs ++ [b]) = 256 * ofBigEndian bs + b.toNat := by
  simp [ofBigEndian]

/-- Reading what was written gives the number back, less what did not fit. -/
theorem ofBigEndian_bigEndian (width n : Nat) :
    ofBigEndian (bigEndian width n) = n % 256 ^ width := by
  induction width generalizing n with
  | zero => simp [bigEndian, ofBigEndian, Nat.mod_one]
  | succ width ih =>
    rw [bigEndian, ofBigEndian_append_singleton, ih, Nat.pow_succ, Nat.mul_comm (256 ^ width),
      Nat.mod_mul]
    simp
    omega

/-- Takes `count` octets off the front, or nothing if there are fewer. -/
def take? (count : Nat) (bs : Octets) : Option (Octets × Octets) :=
  if count ≤ bs.length then some (bs.take count, bs.drop count) else none

/-- Reads a number of `width` octets off the front. -/
def readNat? (width : Nat) (bs : Octets) : Option (Nat × Octets) :=
  (take? width bs).map fun (head, rest) => (ofBigEndian head, rest)

@[simp] theorem take?_append (xs ys : Octets) : take? xs.length (xs ++ ys) = some (xs, ys) := by
  simp [take?]

theorem eq_append_of_take? {count : Nat} {bs head rest : Octets}
    (h : take? count bs = some (head, rest)) : bs = head ++ rest ∧ head.length = count := by
  rw [take?] at h
  split at h
  · simp only [Option.some.injEq, Prod.mk.injEq] at h
    obtain ⟨rfl, rfl⟩ := h
    exact ⟨(List.take_append_drop count bs).symm, List.length_take_of_le ‹_›⟩
  · simp at h

theorem length_readNat? {width n : Nat} {bs rest : Octets}
    (h : readNat? width bs = some (n, rest)) :
    bs.length = width + rest.length := by
  rw [readNat?, Option.map_eq_some_iff] at h
  obtain ⟨⟨head, rest'⟩, h, heq⟩ := h
  obtain ⟨rfl, hl⟩ := eq_append_of_take? h
  simp only [Prod.mk.injEq] at heq
  simp [← hl, heq.2]

theorem readNat?_bigEndian (width n : Nat) (rest : Octets) :
    readNat? width (bigEndian width n ++ rest) = some (n % 256 ^ width, rest) := by
  have h := take?_append (bigEndian width n) rest
  rw [length_bigEndian] at h
  simp [readNat?, h, ofBigEndian_bigEndian]

end Octets

/-- The octets of a text in UTF-8. -/
def octetsOf (s : String) : Octets :=
  s.toByteArray.data.toList

/-- The text that the octets spell in UTF-8, if they spell one. -/
def textOf? (bs : Octets) : Option String :=
  String.fromUTF8? ⟨bs.toArray⟩

@[simp] theorem textOf?_octetsOf (s : String) : textOf? (octetsOf s) = some s := by
  have h : (⟨(octetsOf s).toArray⟩ : ByteArray) = s.toByteArray := rfl
  rw [textOf?, h, String.fromUTF8?, dif_pos s.isValidUTF8]
  rfl

end OscRemote
