import Mathlib.Data.Nat.Digits.Defs
import Mathlib.Tactic.Lemma
import OscRemote.Number.Integer

/-!
# What is read as a decimal number

`SpellsInteger cs n` says without reading that some characters are an optional sign and one or more
decimal digits, and that these have the value `n`.  Any number of zeros may lead.  By
`integer?_eq_some_iff` that is exactly what is read, and with the value that is read; and by
`exists_spellsInteger` every number can be spelled.  The digits of a number without leading zeros are
read as the number in every base (`digitsAfter?_toDigits`).
-/

namespace OscRemote.Number

-- Powers are those that numbers come with, whatever else is in scope.
attribute [local instance (2000)] instPowNat

variable {c : Char} {cs : List Char}

/-- The value of a decimal digit. -/
def digitValue (c : Char) : Nat := c.toNat - '0'.toNat

/-- One or more decimal digits of the value `n`, the most significant first. -/
structure SpellsNatural (cs : List Char) (n : Nat) : Prop where
  ne_nil : cs ≠ []
  isDigit : ∀ c ∈ cs, '0' ≤ c ∧ c ≤ '9'
  ofDigits_eq : Nat.ofDigits 10 (cs.map digitValue).reverse = n

/-- Decimal digits with an optional sign in front of them, of the value `n` together. -/
inductive SpellsInteger : List Char → Int → Prop
  | unsigned {cs : List Char} {n : Nat} (h : SpellsNatural cs n) : SpellsInteger cs n
  | plus {cs : List Char} {n : Nat} (h : SpellsNatural cs n) : SpellsInteger ('+' :: cs) n
  | minus {cs : List Char} {n : Nat} (h : SpellsNatural cs n) : SpellsInteger ('-' :: cs) (-n)

/-! ## Digits -/

lemma toNat_le_iff {c d : Char} : c ≤ d ↔ c.toNat ≤ d.toNat := by
  rw [Char.le_def, UInt32.le_iff_toNat_le, Char.toNat, Char.toNat]

/-- Letters stand for ten and more, so decimal digits are digits. -/
lemma digit?_eq_some_iff {d : Nat} :
    digit? 10 c = some d ↔ ('0' ≤ c ∧ c ≤ '9') ∧ digitValue c = d := by
  unfold digit?
  simp only [toNat_le_iff, digitValue]
  split
  case isTrue hdigit =>
    have hlt : c.toNat - '0'.toNat < 10 := by
      have hle : c.toNat ≤ 57 := hdigit.2
      show c.toNat - 48 < 10
      omega
    rw [Option.filter_some, if_pos (decide_eq_true hlt), Option.some.injEq]
    exact ⟨fun h => ⟨hdigit, h⟩, fun h => h.2⟩
  case isFalse hdigit =>
    refine iff_of_false ?_ fun h => hdigit h.1
    intro h
    obtain ⟨hvalue, hlt⟩ := Option.filter_eq_some_iff.1 h
    have hlt : d < 10 := of_decide_eq_true hlt
    split at hvalue
    · have heq := Option.some.inj hvalue
      omega
    · split at hvalue
      · have heq := Option.some.inj hvalue
        omega
      · cases hvalue

/-- Digits are read from the front, and those before them count as one digit more. -/
lemma digitsAfter?_eq_some_iff {high n : Nat} :
    digitsAfter? 10 high cs = some n ↔ (∀ c ∈ cs, '0' ≤ c ∧ c ≤ '9') ∧
      Nat.ofDigits 10 ((cs.map digitValue).reverse ++ [high]) = n := by
  induction cs generalizing high with
  | nil => simp [digitsAfter?]
  | cons c cs ih =>
    have hhigh (d : Nat) :
        Nat.ofDigits 10 ((cs.map digitValue).reverse ++ [10 * high + d]) =
          Nat.ofDigits 10 ((cs.map digitValue).reverse ++ [d] ++ [high]) := by
      have hpair : Nat.ofDigits 10 [d, high] = 10 * high + d := by
        rw [Nat.ofDigits_cons, Nat.ofDigits_singleton, Nat.add_comm]
      rw [List.append_assoc, List.singleton_append, Nat.ofDigits_append, Nat.ofDigits_append, hpair,
        Nat.ofDigits_singleton]
    rw [digitsAfter?, Option.bind_eq_some_iff, List.forall_mem_cons, List.map_cons,
      List.reverse_cons, ← hhigh]
    constructor
    · rintro ⟨d, hd, h⟩
      obtain ⟨hc, rfl⟩ := digit?_eq_some_iff.1 hd
      obtain ⟨hcs, hn⟩ := ih.1 h
      exact ⟨⟨hc, hcs⟩, hn⟩
    · rintro ⟨⟨hc, hcs⟩, hn⟩
      exact ⟨digitValue c, digit?_eq_some_iff.2 ⟨hc, rfl⟩, ih.2 ⟨hcs, hn⟩⟩

lemma digits?_eq_some_iff {n : Nat} : digits? 10 cs = some n ↔ SpellsNatural cs n := by
  cases cs with
  | nil => exact iff_of_false nofun fun h => h.ne_nil rfl
  | cons c cs =>
    rw [digits?, digitsAfter?_eq_some_iff, Nat.ofDigits_append_zero]
    · exact ⟨fun h => ⟨List.cons_ne_nil c cs, h.1, h.2⟩, fun h => ⟨h.isDigit, h.ofDigits_eq⟩⟩
    · exact nofun

/-! ## Numbers -/

/-- What begins with another character than a digit is not digits. -/
lemma not_spellsNatural_cons {n : Nat} (hc : ¬ ('0' ≤ c ∧ c ≤ '9')) :
    ¬ SpellsNatural (c :: cs) n :=
  fun h => hc (h.isDigit c (List.mem_cons_self ..))

/-- A plus may stand in front of digits that are read. -/
lemma natural?_eq_some_iff {n : Nat} : natural? 10 cs = some n ↔
    SpellsNatural cs n ∨ ∃ ds, cs = '+' :: ds ∧ SpellsNatural ds n := by
  unfold natural?
  split
  case h_1 ds =>
    have hplus : ¬ SpellsNatural ('+' :: ds) n := not_spellsNatural_cons (by decide)
    rw [digits?_eq_some_iff]
    exact ⟨fun h => Or.inr ⟨ds, rfl, h⟩, fun h => (h.resolve_left hplus).elim
      fun ds' ⟨heq, h⟩ => (List.cons.inj heq).2 ▸ h⟩
  case h_2 hplus =>
    rw [digits?_eq_some_iff]
    exact ⟨Or.inl, fun h => h.resolve_right fun ⟨ds, heq, _⟩ => hplus ds heq⟩

lemma bind_cast_eq_some_iff {x : Option Nat} {n : Int} :
    (do let m ← x; pure (m : Int)) = some n ↔ ∃ m : Nat, x = some m ∧ (m : Int) = n := by
  cases x <;> simp

/-- What is read as a whole number is digits behind an optional sign, with their value. -/
theorem integer?_eq_some_iff {n : Int} : integer? 10 cs = some n ↔ SpellsInteger cs n := by
  unfold integer?
  split
  case h_1 ds =>
    rw [Option.map_eq_some_iff]
    constructor
    · rintro ⟨i, hi, rfl⟩
      obtain ⟨m, hm, rfl⟩ := bind_cast_eq_some_iff.1 hi
      exact .minus (digits?_eq_some_iff.1 hm)
    · intro h
      cases h with
      | unsigned h => exact absurd h (not_spellsNatural_cons (by decide))
      | minus h => exact ⟨_, bind_cast_eq_some_iff.2 ⟨_, digits?_eq_some_iff.2 h, rfl⟩, rfl⟩
  case h_2 hminus =>
    rw [Option.map_eq_some_iff]
    constructor
    · rintro ⟨i, hi, rfl⟩
      obtain ⟨m, hm, rfl⟩ := bind_cast_eq_some_iff.1 hi
      rcases natural?_eq_some_iff.1 hm with h | ⟨ds, rfl, h⟩
      · exact .unsigned h
      · exact .plus h
    · intro h
      have hread {m : Nat} (hm : natural? 10 cs = some m) :
          (do let m ← natural? 10 cs; pure (m : Int)) = some (m : Int) :=
        bind_cast_eq_some_iff.2 ⟨m, hm, rfl⟩
      cases h with
      | unsigned h => exact ⟨_, hread (natural?_eq_some_iff.2 (Or.inl h)), rfl⟩
      | plus h => exact ⟨_, hread (natural?_eq_some_iff.2 (Or.inr ⟨_, rfl, h⟩)), rfl⟩
      | minus h => exact absurd rfl (hminus _)

/-- What is read as a number of some width is such digits as well, if their value fits. -/
lemma signed?_eq_some_iff {width : Nat} {n : Int} : signed? width 10 cs = some n ↔
    SpellsInteger cs n ∧ -2 ^ (width - 1) ≤ n ∧ n < 2 ^ (width - 1) := by
  rw [signed?, Option.filter_eq_some_iff, integer?_eq_some_iff, Bool.and_eq_true, decide_eq_true_eq,
    decide_eq_true_eq]

/-! ## Spelling numbers -/

lemma digitValue_ofNat : ∀ d < 10, '0' ≤ Char.ofNat ('0'.toNat + d) ∧
    Char.ofNat ('0'.toNat + d) ≤ '9' ∧ digitValue (Char.ofNat ('0'.toNat + d)) = d := by
  decide

/-- Every natural number is spelled by its digits, behind a zero so that there is one. -/
lemma exists_spellsNatural (n : Nat) : ∃ cs, SpellsNatural cs n := by
  let digits := (Nat.digits 10 n).map fun d => Char.ofNat ('0'.toNat + d)
  have hlt : ∀ d ∈ Nat.digits 10 n, d < 10 := fun d hd => Nat.digits_lt_base (by decide) hd
  have hvalues : digits.map digitValue = Nat.digits 10 n := by
    have hsame : ∀ d ∈ Nat.digits 10 n,
        (digitValue ∘ fun d => Char.ofNat ('0'.toNat + d)) d = id d :=
      fun d hd => (digitValue_ofNat d (hlt d hd)).2.2
    rw [List.map_map, List.map_congr_left hsame, List.map_id]
  refine ⟨'0' :: digits.reverse, List.cons_ne_nil _ _, ?_, ?_⟩
  · rw [List.forall_mem_cons]
    refine ⟨by decide, fun c hc => ?_⟩
    obtain ⟨d, hd, rfl⟩ := List.mem_map.1 (List.mem_reverse.1 hc)
    obtain ⟨hlow, hhigh, -⟩ := digitValue_ofNat d (hlt d hd)
    exact ⟨hlow, hhigh⟩
  · have hzero : digitValue '0' = 0 := rfl
    rw [List.map_cons, List.map_reverse, List.reverse_cons, List.reverse_reverse, hvalues, hzero,
      Nat.ofDigits_append_zero, Nat.ofDigits_digits]

/-- Every integer can be spelled. -/
lemma exists_spellsInteger (n : Int) : ∃ cs, SpellsInteger cs n := by
  obtain ⟨cs, hcs⟩ := exists_spellsNatural n.natAbs
  rcases Int.natAbs_eq n with hn | hn
  · rw [hn]
    exact ⟨cs, .unsigned hcs⟩
  · rw [hn]
    exact ⟨'-' :: cs, .minus hcs⟩

lemma digitsAfter?_append_singleton (base high : Nat) (cs : List Char) (c : Char) :
    digitsAfter? base high (cs ++ [c]) =
      (digitsAfter? base high cs).bind fun n => (digit? base c).map (base * n + ·) := by
  induction cs generalizing high with
  | nil => cases hdigit : digit? base c <;> simp [digitsAfter?, hdigit]
  | cons d cs ih =>
    rw [List.cons_append, digitsAfter?, digitsAfter?]
    cases digit? base d with
    | none => rfl
    | some d => exact ih _

/-- The digits of a number are read as the number, in letters of either case. -/
lemma digitsAfter?_toDigits {base : Nat} (hbase : 1 < base) {letter : Char → Char}
    (hletter : ∀ d < base, digit? base (letter d.digitChar) = some d) (n : Nat) :
    digitsAfter? base 0 ((Nat.toDigits base n).map letter) = some n := by
  induction n using Nat.strongRecOn with
  | ind n ih =>
    rw [Nat.toDigits_eq_if hbase]
    split
    · next hlt => simp [digitsAfter?, hletter n hlt]
    · next hge =>
      rw [List.map_append, List.map_singleton, digitsAfter?_append_singleton,
        ih (n / base) (Nat.div_lt_self (by omega) hbase), Option.bind_some,
        hletter _ (Nat.mod_lt n (by omega)), Option.map_some, Nat.div_add_mod]

lemma digitsAfter?_toDigits_ten (n : Nat) : digitsAfter? 10 0 (Nat.toDigits 10 n) = some n := by
  have hread : digitsAfter? 10 0 ((Nat.toDigits 10 n).map id) = some n :=
    digitsAfter?_toDigits (by decide) (by decide) n
  rwa [List.map_id] at hread

/-- A decimal number has no zero in front of other digits. -/
lemma eq_nil_of_toDigits_eq_zero_cons {n : Nat} (h : Nat.toDigits 10 n = '0' :: cs) : cs = [] := by
  induction n using Nat.strongRecOn generalizing cs with
  | ind n ih =>
    rw [Nat.toDigits_eq_if (by decide)] at h
    split at h
    · exact (List.cons.inj h).2.symm
    · next hge =>
      cases hfront : Nat.toDigits 10 (n / 10) with
      | nil => exact absurd hfront Nat.toDigits_ne_nil
      | cons d ds =>
        rw [hfront, List.cons_append] at h
        obtain rfl := (List.cons.inj h).1
        obtain rfl := ih (n / 10) (by omega) hfront
        have hvalue := digitsAfter?_toDigits_ten (n / 10)
        rw [hfront] at hvalue
        have hzero : n / 10 = 0 := (Option.some.inj hvalue).symm
        omega

lemma digits?_toDigits (n : Nat) : digits? 10 (Nat.toDigits 10 n) = some n := by
  rw [← digitsAfter?_toDigits_ten n]
  cases hcs : Nat.toDigits 10 n with
  | nil => exact absurd hcs Nat.toDigits_ne_nil
  | cons c cs => rfl

/-- A number has no sign in front of its digits. -/
lemma toDigits_ne_cons {n : Nat} (hc : c.isDigit = false) (cs : List Char) :
    Nat.toDigits 10 n ≠ c :: cs := by
  intro h
  have hdigit : c.isDigit = true :=
    Nat.isDigit_of_mem_toDigits (by decide) (by decide) (h ▸ List.mem_cons_self)
  rw [hdigit] at hc
  cases hc

end OscRemote.Number
