import OscRemote.Proofs.Yaml.Block

/-!
# What is written

Words and numbers can be written plain (`allowsPlain_of_isWordChar`), and numbers are read as such
(`unsigned?_toDigits`).  Every other text is given a style that can carry it (`chooseStyle_cases`),
and whatever is written is made of characters that stand for themselves
(`isPlain_of_mem_writeScalarLine`).
-/

namespace OscRemote.Yaml

-- Powers are those that numbers come with, whatever else is in scope.
attribute [local instance (2000)] instPowNat

-- To decide about the characters of a text, only these are tried, and not all that there are.
attribute [local instance (2000)] List.decidableBAll

variable {c : Char} {cs : List Char}

/-! ## Words -/

/-- Characters of words and numbers: letters, digits and underscores. -/
def IsWordChar (c : Char) : Prop :=
  ('0' ≤ c ∧ c ≤ '9') ∨ ('a' ≤ c ∧ c ≤ 'z') ∨ ('A' ≤ c ∧ c ≤ 'Z') ∨ c = '_'

instance (c : Char) : Decidable (IsWordChar c) := inferInstanceAs (Decidable (_ ∨ _ ∨ _ ∨ _))

lemma isWordChar_of_isAlpha (h : c.isAlpha = true) : IsWordChar c := by
  obtain h | h := Bool.or_eq_true_iff.1 h
  · exact Or.inr (Or.inr (Or.inl (of_decide_eq_true h)))
  · obtain ⟨hlow, hhigh⟩ := Bool.and_eq_true_iff.1 h
    exact Or.inr (Or.inl ⟨of_decide_eq_true hlow, of_decide_eq_true hhigh⟩)

lemma ne_of_isWordChar {d : Char} (h : IsWordChar c) (hd : ¬ IsWordChar d) : c ≠ d := by
  rintro rfl
  exact hd h

lemma isPlain_of_isWordChar (h : IsWordChar c) : isPlain c = true := by
  have hplain (hlow : 0x20 ≤ c.toNat) (hhigh : c.toNat ≤ 0x7E) : isPlain c = true := by
    simp only [isPlain, Bool.or_eq_true, Bool.and_eq_true, decide_eq_true_eq]
    exact Or.inl (Or.inl (Or.inl (Or.inr ⟨hlow, hhigh⟩)))
  simp only [IsWordChar, Number.toNat_le_iff] at h
  have hbounds : ('0'.toNat = 48 ∧ '9'.toNat = 57) ∧ ('a'.toNat = 97 ∧ 'z'.toNat = 122) ∧
    'A'.toNat = 65 ∧ 'Z'.toNat = 90 := by decide
  obtain h | h | h | rfl := h
  · exact hplain (by omega) (by omega)
  · exact hplain (by omega) (by omega)
  · exact hplain (by omega) (by omega)
  · decide

/-- None of the signs that mislead is a character of words. -/
lemma misleadsAtStart_of_isWordChar (h : IsWordChar c) (cs : List Char) :
    misleadsAtStart c cs = false := by
  have hsigns : ∀ d ∈ "#,[]\x7b\x7d&*!|>'\"%@\x60".toList, ¬ IsWordChar d := by decide
  have hc : "#,[]\x7b\x7d&*!|>'\"%@\x60".toList.contains c = false :=
    eq_false_of_ne_true fun hmem => hsigns c (List.contains_iff_mem.1 hmem) h
  rw [misleadsAtStart, hc, beq_false_of_ne (ne_of_isWordChar h (by decide)),
    beq_false_of_ne (ne_of_isWordChar h (by decide)),
    beq_false_of_ne (ne_of_isWordChar h (by decide))]
  rfl

lemma hasPair_eq_false_left {first second : Char → Bool} (h : ∀ c ∈ cs, first c = false) :
    hasPair first second cs = false := by
  induction cs with
  | nil => rfl
  | cons c cs ih =>
    obtain ⟨hc, hcs⟩ := List.forall_mem_cons.1 h
    cases cs with
    | nil => rfl
    | cons d cs => rw [hasPair, hc, ih hcs]; rfl

lemma misleadsWithin_of_isWordChar (h : ∀ c ∈ cs, IsWordChar c) : misleadsWithin cs = false := by
  induction cs with
  | nil => rfl
  | cons c cs ih =>
    obtain ⟨-, hcs⟩ := List.forall_mem_cons.1 h
    cases cs with
    | nil => rfl
    | cons d cs =>
      have hd := hcs d List.mem_cons_self
      rw [misleadsWithin, beq_false_of_ne (ne_of_isWordChar hd (by decide)),
        beq_false_of_ne (ne_of_isWordChar hd (by decide)), ih hcs]
      rfl

/-- What is written in words can be written plain. -/
lemma allowsPlain_of_isWordChar (h : ∀ c ∈ cs, IsWordChar c) : allowsPlain cs = true := by
  have hbreak : ∀ c ∈ cs, isBreak c = false := fun c hc => by
    rw [isBreak, beq_false_of_ne (ne_of_isWordChar (h c hc) (by decide)),
      beq_false_of_ne (ne_of_isWordChar (h c hc) (by decide)),
      beq_false_of_ne (ne_of_isWordChar (h c hc) (by decide))]
    rfl
  have hspace : ∀ c ∈ cs, isSpace c = false := fun c hc =>
    beq_false_of_ne (ne_of_isWordChar (h c hc) (by decide))
  have hquotes : allowsSingleQuotes cs = true := by
    rw [allowsSingleQuotes, hasPair_eq_false_left hbreak, hasPair_eq_false_left hspace,
      List.all_eq_true.2 fun c hc => isPlain_of_isWordChar (h c hc)]
    rfl
  refine allowsPlain_iff.2 ⟨hquotes, hbreak, fun c hc => hspace c (List.mem_of_mem_head? hc),
    fun c hc => hspace c (List.mem_of_getLast? hc), ?_⟩
  cases cs with
  | nil => rfl
  | cons c cs =>
    have hc := h c List.mem_cons_self
    have hmark {d : Char} (hd : ¬ IsWordChar d) (ds : List Char) :
        (d :: ds).isPrefixOf (c :: cs) = false := by
      rw [List.isPrefixOf, beq_false_of_ne (ne_of_isWordChar hc hd).symm]
      rfl
    have hdashes : "---".toList.isPrefixOf (c :: cs) = false := hmark (by decide) _
    have hdots : "...".toList.isPrefixOf (c :: cs) = false := hmark (by decide) _
    simp only [misleads, hdashes, hdots, misleadsAtStart_of_isWordChar hc,
      misleadsWithin_of_isWordChar h, Bool.or_false]

/-! ## Numbers -/

lemma base?_toDigits (n : Nat) : base? (Nat.toDigits 10 n) = none := by
  unfold base?
  split
  case h_4 => rfl
  all_goals
    next heq => cases Number.eq_nil_of_toDigits_eq_zero_cons heq

lemma hasLeadingZero_toDigits (n : Nat) : hasLeadingZero (Nat.toDigits 10 n) = false := by
  have hminus : ∀ cs, Nat.toDigits 10 n = '-' :: cs → False := Number.toDigits_ne_cons (by decide)
  have hplus : ∀ cs, Nat.toDigits 10 n = '+' :: cs → False := Number.toDigits_ne_cons (by decide)
  have hzero : ∀ c cs, Nat.toDigits 10 n = '0' :: c :: cs → False := fun c cs heq =>
    List.cons_ne_nil c cs (Number.eq_nil_of_toDigits_eq_zero_cons heq)
  exact hasLeadingZero.eq_6 _ hminus hplus hzero

lemma unsigned?_toDigits {width n : Nat} (h : n < 2 ^ width) :
    unsigned? width (Nat.toDigits 10 n) = some n := by
  have hplus : ∀ cs, Nat.toDigits 10 n = '+' :: cs → False := Number.toDigits_ne_cons (by decide)
  rw [unsigned?.eq_2 _ _ hplus, base?_toDigits, hasLeadingZero_toDigits]
  simp [Number.digits?_toDigits, h]

/-! ## Styles -/

/-- A style is chosen only for a text that it can carry. -/
lemma chooseStyle_cases (cs : List Char) :
    (chooseStyle cs = .literal ∧ '\n' ∈ cs ∧ allowsBlock cs = true) ∨
      (chooseStyle cs = .plain ∧ cs ≠ [] ∧ allowsPlain cs = true) ∨
      (chooseStyle cs = .singleQuoted ∧ '\n' ∉ cs ∧ allowsSingleQuotes cs = true) ∨
      chooseStyle cs = .doubleQuoted := by
  unfold chooseStyle
  split
  · next hnewline =>
    split
    · next hblock => exact Or.inl ⟨rfl, List.contains_iff_mem.1 hnewline, hblock⟩
    · exact Or.inr (Or.inr (Or.inr rfl))
  · next hnewline =>
    have hnewline : '\n' ∉ cs := fun hmem => hnewline (List.contains_iff_mem.2 hmem)
    split
    · next hplain =>
      rw [Bool.and_eq_true, Bool.not_eq_true'] at hplain
      refine Or.inr (Or.inl ⟨rfl, ?_, hplain.2⟩)
      rintro rfl
      cases hplain.1
    · split
      · next hquotes => exact Or.inr (Or.inr (Or.inl ⟨rfl, hnewline, hquotes⟩))
      · exact Or.inr (Or.inr (Or.inr rfl))

/-! ## Characters -/

lemma isWordChar_of_digit? {base d : Nat} (h : Number.digit? base c = some d) : IsWordChar c := by
  obtain ⟨h, -⟩ := Option.filter_eq_some_iff.1 h
  split at h
  · next hdigit => exact Or.inl hdigit
  · split at h
    · next hsmall => exact Or.inr (Or.inl hsmall)
    · split at h
      · next hcapital => exact Or.inr (Or.inr (Or.inl hcapital))
      · cases h

lemma isWordChar_of_digitsAfter? {base high n : Nat}
    (h : Number.digitsAfter? base high cs = some n) : ∀ c ∈ cs, IsWordChar c := by
  induction cs generalizing high with
  | nil => exact List.forall_mem_nil _
  | cons c cs ih =>
    obtain ⟨d, hd, h⟩ := Option.bind_eq_some_iff.1 h
    exact List.forall_mem_cons.2 ⟨isWordChar_of_digit? hd, ih h⟩

lemma isPlain_of_escapeLetter? {letter : Char} (h : escapeLetter? c = some letter) :
    isPlain letter = true := by
  unfold escapeLetter? at h
  split at h
  all_goals
    cases h
    try decide

lemma isPlain_of_mem_replicate {n : Nat} (h : c ∈ List.replicate n ' ') : isPlain c = true := by
  rw [List.eq_of_mem_replicate h]
  decide

lemma isPlain_of_mem_hexDigits {width n : Nat} (h : c ∈ hexDigits width n) : isPlain c = true :=
  isPlain_of_isWordChar (isWordChar_of_digitsAfter? (digitsAfter?_hexDigits width n) c h)

lemma isPlain_of_mem_doubleQuotedChar {d : Char} (h : d ∈ doubleQuotedChar c) :
    isPlain d = true := by
  have hnumber {letter : Char} {width n : Nat} (hletter : isPlain letter = true)
      (h : d ∈ '\\' :: letter :: hexDigits width n) : isPlain d = true := by
    obtain rfl | rfl | h := by simpa using h
    · decide
    · exact hletter
    · exact isPlain_of_mem_hexDigits h
  unfold doubleQuotedChar at h
  split at h
  · next hself =>
    rw [List.mem_singleton.1 h]
    simp only [Bool.and_eq_true] at hself
    exact hself.1.1.1
  · split at h
    · next letter hletter =>
      obtain rfl | rfl := by simpa using h
      · decide
      · exact isPlain_of_escapeLetter? hletter
    · dsimp only at h
      split at h
      · exact hnumber (by decide) h
      · split at h <;> exact hnumber (by decide) h

lemma isPlain_of_mem_singleQuotedChars {indent : Nat} {lineStart : Bool}
    (hcs : ∀ c ∈ cs, isPlain c = true) (h : c ∈ singleQuotedChars indent lineStart cs) :
    isPlain c = true := by
  induction cs generalizing lineStart with
  | nil =>
    rw [singleQuotedChars] at h
    split at h
    · exact isPlain_of_mem_replicate h
    · cases h
  | cons d cs ih =>
    obtain ⟨hd, hcs⟩ := List.forall_mem_cons.1 hcs
    rw [singleQuotedChars] at h
    split at h
    · obtain rfl | h := List.mem_cons.1 h
      · exact hd
      · exact ih hcs h
    · rw [List.mem_append, List.mem_append] at h
      obtain (h | h) | h := h
      · split at h
        · exact isPlain_of_mem_replicate h
        · cases h
      · split at h
        · obtain rfl : c = '\'' := by simpa using h
          decide
        · rw [List.mem_singleton.1 h, hd]
      · exact ih hcs h

lemma isPlain_of_mem_blockChars {indent : Nat} {lineStart : Bool}
    (hcs : ∀ c ∈ cs, isPlain c = true) (h : c ∈ blockChars indent lineStart cs) :
    isPlain c = true := by
  induction cs generalizing lineStart with
  | nil => cases h
  | cons d cs ih =>
    obtain ⟨hd, hcs⟩ := List.forall_mem_cons.1 hcs
    rw [blockChars] at h
    split at h
    · obtain rfl | h := List.mem_cons.1 h
      · exact hd
      · exact ih hcs h
    · obtain h | h := List.mem_append.1 h
      · split at h
        · exact isPlain_of_mem_replicate h
        · cases h
      · obtain rfl | h := List.mem_cons.1 h
        · exact hd
        · exact ih hcs h

lemma isPlain_of_mem_quoted {q : Char} {inside : List Char} (hq : isPlain q = true)
    (hinside : ∀ c ∈ inside, isPlain c = true) (h : c ∈ q :: inside ++ [q]) :
    isPlain c = true := by
  obtain rfl | h | rfl := by simpa using h
  · exact hq
  · exact hinside c h
  · exact hq

lemma isPlain_of_mem_blockHints (h : c ∈ blockHints 2 cs) : isPlain c = true := by
  have hsign : ∀ d ∈ (chompingFor cs).sign, isPlain d = true := by
    cases chompingFor cs <;> decide
  rw [blockHints_eq, List.mem_append] at h
  obtain h | h := h
  · split at h
    · rw [List.mem_singleton.1 h]
      decide
    · cases h
  · exact hsign c h

lemma isPlain_of_mem_writeScalar (h : c ∈ writeScalar 2 cs) : isPlain c = true := by
  obtain ⟨hstyle, -, hallows⟩ | ⟨hstyle, -, hallows⟩ | ⟨hstyle, -, hallows⟩ | hstyle :=
    chooseStyle_cases cs <;> rw [writeScalar, hstyle] at h
  · simp only [allowsBlock, Bool.and_eq_true] at hallows
    simp only [List.append_assoc, List.cons_append, List.mem_append, List.mem_cons] at h
    obtain rfl | h | rfl | h | h := h
    · decide
    · exact isPlain_of_mem_blockHints h
    · decide
    · exact isPlain_of_mem_blockChars (List.all_eq_true.1 hallows.1.1) h
    · split at h
      · cases h
      · rw [List.mem_singleton.1 h]
        decide
  · exact isPlain_of_allowsSingleQuotes (allowsPlain_iff.1 hallows).1 c h
  · exact isPlain_of_mem_quoted (by decide) (fun d hd =>
      isPlain_of_mem_singleQuotedChars (isPlain_of_allowsSingleQuotes hallows) hd) h
  · refine isPlain_of_mem_quoted (by decide) (fun d hd => ?_) h
    obtain ⟨e, -, hd⟩ := List.mem_flatMap.1 hd
    exact isPlain_of_mem_doubleQuotedChar hd

/-- Whatever is written is made of characters that stand for themselves. -/
lemma isPlain_of_mem_writeScalarLine (h : c ∈ writeScalarLine 2 cs) : isPlain c = true := by
  have hline : c ∈ writeScalar 2 cs ++ ['\n'] := by
    unfold writeScalarLine at h
    split at h
    · exact List.mem_append_left _ h
    · exact List.mem_append_left _ h
    · exact h
  obtain h | h := List.mem_append.1 hline
  · exact isPlain_of_mem_writeScalar h
  · rw [List.mem_singleton.1 h]
    decide

end OscRemote.Yaml
