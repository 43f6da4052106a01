import Mathlib.Data.List.Basic
import OscRemote.Text.Lowercase

/-!
# Words that only small and capital letters spell

Writing a text in small letters goes over all of Unicode, and some characters that are not ASCII
have small forms that are, or begin with one: the Kelvin sign becomes `k`, and the dotted capital I
becomes `i` with a mark behind it.  The second keeps its mark, so but for `k` no ASCII word is
reached from a text that is not ASCII (`lowerAfter_eq_iff`): whatever is in small letters one of the
words that a program looks for was spelled with the letters of that word, small or capital.
-/

namespace OscRemote.Text

variable {c d : Char} {before cs w : List Char} {s : String}

/-! ## One character -/

/-- Whether a character is one of the first 128. -/
def IsAscii (c : Char) : Prop := c.toNat < 128

instance (c : Char) : Decidable (IsAscii c) := inferInstanceAs (Decidable (_ < _))

/-- The run of the capital letters from A to Z. -/
def latinRun : LowerRun := ⟨0x41, 0x5A, 1, 32⟩

/-- The run of the Kelvin sign. -/
def kelvinRun : LowerRun := ⟨0x212A, 0x212A, 1, -8383⟩

/-- Whether a run lies beyond ASCII, and so do the characters that it leads to. -/
def LowerRun.staysBeyond (r : LowerRun) : Bool :=
  decide (128 ≤ r.first) && decide (128 ≤ (r.first : Int) + r.shift) &&
    (decide ((r.last : Int) + r.shift < 0xD800) ||
      (decide (0xDFFF < (r.first : Int) + r.shift) && decide ((r.last : Int) + r.shift < 0x110000)))

lemma lowerRuns_cases : ∀ r ∈ lowerRuns, r = latinRun ∨ r = kelvinRun ∨ r.staysBeyond = true := by
  decide +kernel

lemma LowerRun.of_covers {r : LowerRun} {n : Nat} (h : r.covers n = true) :
    r.first ≤ n ∧ n ≤ r.last := by
  simp only [covers, Bool.and_eq_true, decide_eq_true_eq] at h
  exact h.1

lemma covers_latinRun_iff {n : Nat} : latinRun.covers n = true ↔ 0x41 ≤ n ∧ n ≤ 0x5A := by
  rw [LowerRun.covers, Bool.and_eq_true, Bool.and_eq_true, decide_eq_true_eq, decide_eq_true_eq]
  simp [latinRun, Nat.mod_one]

lemma toNat_ofNat_of_isValidChar {n : Nat} (h : n.isValidChar) : (Char.ofNat n).toNat = n := by
  rw [Char.ofNat, dif_pos h]
  rfl

lemma toLower_of_capital (h : 0x41 ≤ c.toNat) (h' : c.toNat ≤ 0x5A) :
    c.toLower = Char.ofNat (c.toNat + 32) := by
  have hcapital : c.val ≥ 'A'.val ∧ c.val ≤ 'Z'.val := by
    simpa [UInt32.le_iff_toNat_le] using And.intro h h'
  have hvalid : (c.toNat + 32).isValidChar := Or.inl (by omega)
  refine (dif_pos hcapital).trans (Char.toNat_inj.1 ?_)
  rw [toNat_ofNat_of_isValidChar hvalid]
  show (c.val + 32).toNat = c.val.toNat + 32
  have : c.val.toNat ≤ 0x5A := h'
  rw [UInt32.toNat_add]
  show (c.val.toNat + 32) % 2 ^ 32 = _
  omega

lemma toLower_of_not_capital (h : c.toNat < 0x41 ∨ 0x5A < c.toNat) : c.toLower = c := by
  have hother : ¬ (c.val ≥ 'A'.val ∧ c.val ≤ 'Z'.val) := by
    rintro ⟨hle, hge⟩
    have hle' : 0x41 ≤ c.toNat := UInt32.le_iff_toNat_le.1 hle
    have hge' : c.toNat ≤ 0x5A := UInt32.le_iff_toNat_le.1 hge
    omega
  exact dif_neg hother

/-- A character that has no run stays as it is, and any other goes where its run leads. -/
lemma lowerChar_cases (hc : c ≠ 'İ') :
    (lowerChar c = [c] ∧ ∀ r ∈ lowerRuns, r.covers c.toNat = false) ∨
      ∃ r ∈ lowerRuns, r.covers c.toNat = true ∧
        lowerChar c = [Char.ofNat (c.toNat + r.shift).toNat] := by
  rw [lowerChar, if_neg hc]
  cases hfind : lowerRuns.find? (·.covers c.toNat) with
  | none =>
    refine Or.inl ⟨rfl, fun r hr => ?_⟩
    exact eq_false_of_ne_true (List.find?_eq_none.1 hfind r hr)
  | some r =>
    have hcovers := (List.find?_eq_some_iff_append.1 hfind).1
    exact Or.inr ⟨r, List.mem_of_find?_eq_some hfind, hcovers, rfl⟩

/-- An ASCII character becomes a small letter, or stays as it is. -/
lemma lowerChar_of_isAscii (h : IsAscii c) : lowerChar c = [c.toLower] := by
  have hc : c ≠ 'İ' := by
    rintro rfl
    exact absurd h (by decide)
  obtain ⟨hlower, hnone⟩ | ⟨r, hr, hcovers, hlower⟩ := lowerChar_cases hc
  · have hlatin := hnone latinRun (by decide)
    have hother : c.toNat < 0x41 ∨ 0x5A < c.toNat := by
      by_contra hcapital
      rw [covers_latinRun_iff.2 (by omega)] at hlatin
      cases hlatin
    rw [hlower, toLower_of_not_capital hother]
  · obtain ⟨hfirst, hlast⟩ := LowerRun.of_covers hcovers
    obtain rfl | rfl | hbeyond := lowerRuns_cases r hr
    · rw [hlower, toLower_of_capital hfirst hlast]
      rfl
    · exact absurd (Nat.le_trans hfirst (Nat.le_of_lt h)) (by decide)
    · simp only [LowerRun.staysBeyond, Bool.and_eq_true, decide_eq_true_eq] at hbeyond
      exact absurd (Nat.lt_of_le_of_lt hfirst h) (Nat.not_lt.2 hbeyond.1.1)

/-- Any other character leads beyond ASCII, but for the Kelvin sign. -/
lemma exists_mem_lowerChar (h : ¬ IsAscii c) : ∃ d ∈ lowerChar c, ¬ IsAscii d ∨ d = 'k' := by
  by_cases hc : c = 'İ'
  · subst hc
    exact ⟨'\u0307', by decide, Or.inl (by decide)⟩
  obtain ⟨hlower, -⟩ | ⟨r, hr, hcovers, hlower⟩ := lowerChar_cases hc
  · exact ⟨c, by simp [hlower], Or.inl h⟩
  · obtain ⟨hfirst, hlast⟩ := LowerRun.of_covers hcovers
    refine ⟨_, by rw [hlower]; exact List.mem_singleton_self _, ?_⟩
    obtain rfl | rfl | hbeyond := lowerRuns_cases r hr
    · exact absurd (Nat.lt_of_le_of_lt hlast (by decide)) h
    · have hkelvin : c.toNat = 0x212A := Nat.le_antisymm hlast hfirst
      rw [hkelvin]
      exact Or.inr (by decide)
    · simp only [LowerRun.staysBeyond, Bool.and_eq_true, Bool.or_eq_true, decide_eq_true_eq]
        at hbeyond
      have hvalid : (c.toNat + r.shift).toNat.isValidChar := by
        rw [Nat.isValidChar]
        omega
      refine Or.inl ?_
      rw [IsAscii, toNat_ofNat_of_isValidChar hvalid]
      omega

/-! ## Texts -/

/-- A text in small letters is a word of ASCII characters without a `k` exactly if it is that word
once its letters from A to Z are made small.  The induction is on the text, with what stands before
it kept general, since the sigma looks there. -/
lemma lowerAfter_eq_iff (hw : ∀ d ∈ w, IsAscii d ∧ d ≠ 'k') :
    lowerAfter before cs = w ↔ cs.map Char.toLower = w := by
  induction cs generalizing before w with
  | nil => rfl
  | cons c cs ih =>
    -- What a character beyond ASCII leads to is not in the word, and neither is the character.
    have hbeyond (hc : ¬ IsAscii c)
        (hd : ∃ d ∈ lowerAfter before (c :: cs), ¬ IsAscii d ∨ d = 'k') :
        lowerAfter before (c :: cs) = w ↔ (c :: cs).map Char.toLower = w := by
      refine iff_of_false ?_ ?_
      · rintro rfl
        obtain ⟨d, hmem, hd | hd⟩ := hd
        · exact hd (hw d hmem).1
        · exact (hw d hmem).2 hd
      · rintro rfl
        have hlower : c.toLower = c := toLower_of_not_capital (by
          rw [IsAscii] at hc
          omega)
        exact hc (hlower ▸ (hw _ (List.mem_cons_self)).1)
    by_cases hsigma : c = 'Σ'
    · refine hbeyond (by rw [hsigma]; decide) ?_
      rw [lowerAfter, if_pos hsigma]
      split
      · exact ⟨'ς', List.mem_cons_self, Or.inl (by decide)⟩
      · exact ⟨'σ', List.mem_cons_self, Or.inl (by decide)⟩
    · by_cases hc : IsAscii c
      · rw [lowerAfter, if_neg hsigma, lowerChar_of_isAscii hc, List.singleton_append,
          List.map_cons]
        cases w with
        | nil => simp
        | cons d w =>
          rw [List.cons.injEq, List.cons.injEq, ih fun d hd => hw d (List.mem_cons_of_mem _ hd)]
      · obtain ⟨d, hmem, hd⟩ := exists_mem_lowerChar hc
        refine hbeyond hc ⟨d, ?_, hd⟩
        rw [lowerAfter, if_neg hsigma]
        exact List.mem_append_left _ hmem

/-- Whether two texts are the same but for the case of their letters from A to Z. -/
def SameButCase (s t : String) : Prop := s.toList.map Char.toLower = t.toList.map Char.toLower

instance (s t : String) : Decidable (SameButCase s t) := inferInstanceAs (Decidable (_ = _))

/-- Words that only small and capital letters spell: they are ASCII and in small letters, and there
is no `k` in them. -/
def IsKeyword (w : String) : Prop := ∀ d ∈ w.toList, IsAscii d ∧ d ≠ 'k' ∧ d.toLower = d

instance (w : String) : Decidable (IsKeyword w) := List.decidableBAll _ _

variable {t : String}

/-- Small and capital letters from A to Z are all that is not distinguished. -/
lemma IsKeyword.lowercase_eq_iff (ht : IsKeyword t) : lowercase s = t ↔ SameButCase s t := by
  have hlower : t.toList.map Char.toLower = t.toList :=
    (List.map_congr_left fun d hd => (ht d hd).2.2).trans (List.map_id' _)
  have hword : lowerAfter [] s.toList = t.toList ↔ s.toList.map Char.toLower = t.toList :=
    lowerAfter_eq_iff fun d hd => And.intro (ht d hd).1 (ht d hd).2.1
  rw [SameButCase, hlower, ← hword, lowercase]
  constructor
  · rintro rfl
    exact String.toList_ofList.symm
  · intro h
    rw [h, String.ofList_toList]

/-- A text that is the same as a keyword but for the case is ASCII. -/
lemma SameButCase.isAscii (h : SameButCase s t) (ht : IsKeyword t) :
    ∀ c ∈ s.toList, IsAscii c := by
  intro c hc
  by_contra hbeyond
  have hlower : c.toLower = c := toLower_of_not_capital (by
    rw [IsAscii] at hbeyond
    omega)
  have hmem : c ∈ t.toList.map Char.toLower := by
    rw [← h]
    exact List.mem_map.2 ⟨c, hc, hlower⟩
  obtain ⟨d, hd, hdc⟩ := List.mem_map.1 hmem
  rw [(ht d hd).2.2] at hdc
  exact hbeyond (hdc ▸ (ht d hd).1)

end OscRemote.Text
