import Mathlib.Data.List.Basic
import OscRemote.Proofs.Number.Integer
import OscRemote.Yaml.Scalar.Read
import OscRemote.Yaml.Scalar.Write

/-!
# Scalars that are written are read back

For each of the styles in which a text is written, the reader of this style gives the text back, and
leaves what stands behind it.  The conditions under which the writer chooses a style are what the
reader needs.
-/

namespace OscRemote.Yaml

variable {c : Char} {cs rest : List Char}

/-! ## Characters -/

lemma prepend_ok {α : Type} (front cs : List Char) (a : α) :
    prepend front (.ok (cs, a)) = .ok (front ++ cs, a) :=
  rfl

lemma prepend_nil {α : Type} (result : Except Error (List Char × α)) :
    prepend [] result = result := by
  cases result <;> rfl

lemma prepend_prepend {α : Type} (front cs : List Char) (result : Except Error (List Char × α)) :
    prepend front (prepend cs result) = prepend (front ++ cs) result := by
  cases result with
  | error cause => rfl
  | ok read => simp [prepend, Except.map]

lemma isBlank_iff : isBlank c = true ↔ c = ' ' ∨ c = '\t' := by
  simp [isBlank]

lemma ne_of_isPlain {d : Char} (h : isPlain c = true) (hd : isPlain d = false) : c ≠ d := by
  rintro rfl
  rw [h] at hd
  cases hd

/-- Of the blanks only the space is written as itself. -/
lemma isBlank_eq_isSpace (h : isPlain c = true) : isBlank c = isSpace c := by
  have htab : (c == '\t') = false := beq_false_of_ne (ne_of_isPlain h (by decide))
  rw [isBlank, htab, Bool.or_false, isSpace]

lemma not_isBreak_of_isBlank (h : isBlank c = true) : isBreak c = false := by
  obtain rfl | rfl := isBlank_iff.1 h <;> decide

/-- What stands behind the end of a line: blanks, fewer than `indent`, and then a letter or
nothing. -/
def LineBegins (indent : Nat) (cs : List Char) : Prop :=
  ∃ n rest, n < indent ∧ cs = List.replicate n ' ' ++ rest ∧ ∀ c ∈ rest.head?, c.isAlpha = true

lemma not_isBlank_of_isAlpha (h : c.isAlpha = true) : isBlank c = false := by
  refine eq_false_of_ne_true fun hblank => ?_
  obtain rfl | rfl := isBlank_iff.1 hblank <;> cases h

lemma not_isBreak_of_isAlpha (h : c.isAlpha = true) : isBreak c = false := by
  refine eq_false_of_ne_true fun hbreak => ?_
  simp only [isBreak, Bool.or_eq_true, beq_iff_eq] at hbreak
  obtain (rfl | rfl) | rfl := hbreak <;> revert h <;> decide

/-! ## Plain scalars -/

section

variable {indent column : Nat}

/-- A plain scalar goes on over the end of its line and the blanks of the next, and ends there. -/
lemma plainFrom_blanks (n : Nat) {first : Char} {more : List Char} (h : column + n < indent)
    (hrest : ∀ c ∈ rest.head?, c.isAlpha = true) :
    plainFrom false indent column (.lines (some first) more) (List.replicate n ' ' ++ rest) =
      .ok ([], rest, true) := by
  induction n generalizing column with
  | zero =>
    cases rest with
    | nil => rfl
    | cons c rest =>
      have halpha := hrest c rfl
      have hcolumn : decide (column < indent) = true := decide_eq_true h
      rw [List.replicate_zero, List.nil_append, plainFrom, not_isBlank_of_isAlpha halpha,
        not_isBreak_of_isAlpha halpha, hcolumn]
      rfl
  | succ n ih =>
    rw [List.replicate_succ, List.cons_append, plainFrom]
    have hspace : (' ' == '\t') = false := by decide
    rw [if_pos (by decide), hspace, Bool.and_false, if_neg (by decide)]
    exact ih (by omega)

lemma startsBlank_append_break {b : Char} (hb : isBreak b = true) (cs rest : List Char) :
    startsBlank (cs ++ b :: rest) = startsBlank cs := by
  cases cs with
  | nil => simp [startsBlank, hb]
  | cons c cs => rfl

/-- What may follow `before` in a plain text: neither what would end the scalar nor a blank at the
end. -/
structure GoesOn (before : Char) (cs : List Char) : Prop where
  isPlain : ∀ c ∈ cs, isPlain c = true
  not_isBreak : ∀ c ∈ cs, isBreak c = false
  not_misleads : misleadsWithin (before :: cs) = false
  not_isBlank : ∀ c ∈ (before :: cs).getLast?, isBlank c = false

lemma GoesOn.tail {before : Char} (h : GoesOn before (c :: cs)) : GoesOn c cs where
  isPlain d hd := h.isPlain d (List.mem_cons_of_mem c hd)
  not_isBreak d hd := h.not_isBreak d (List.mem_cons_of_mem c hd)
  not_misleads := by
    have hpair := h.not_misleads
    rw [misleadsWithin, Bool.or_eq_false_iff] at hpair
    exact hpair.2
  not_isBlank := by
    have hlast := h.not_isBlank
    rwa [List.getLast?_cons_cons] at hlast

/-- The induction is on what is left of the text.  The gap before it is what was read of blanks, so
it is empty unless the last character was one. -/
lemma plainFrom_goesOn {before : Char} {blanks : List Char} (h : GoesOn before cs)
    (hblanks : blanks = [] ∨ isBlank before = true) (hcolumn : indent ≤ column)
    {n : Nat} (hn : n < indent)
    (hrest : ∀ c ∈ rest.head?, c.isAlpha = true) :
    plainFrom false indent column (.blanks blanks) (cs ++ '\n' :: (List.replicate n ' ' ++ rest)) =
      .ok (blanks.reverse ++ cs, rest, true) := by
  induction cs generalizing before blanks column with
  | nil =>
    obtain rfl : blanks = [] := hblanks.resolve_right (by simp [h.not_isBlank before rfl])
    exact plainFrom_blanks n (by omega) hrest
  | cons c cs ih =>
    have hplain := h.isPlain c List.mem_cons_self
    have hbreak := h.not_isBreak c List.mem_cons_self
    have hpair := h.not_misleads
    rw [misleadsWithin, Bool.or_eq_false_iff, Bool.or_eq_false_iff] at hpair
    obtain ⟨⟨hcolon, hcomment⟩, -⟩ := hpair
    rw [List.cons_append, plainFrom]
    by_cases hblank : isBlank c = true
    · rw [if_pos hblank, show (Gap.blanks blanks).hasBreak = false from rfl, Bool.false_and,
        Bool.false_and, if_neg (by decide), Gap.addBlank,
        ih h.tail (Or.inr hblank) (by omega)]
      simp
    · have hstop : ((!(Gap.blanks blanks).isNone) && ((!false && decide (column < indent)) ||
          c == '#' || (column == 0 && startsDocumentMark
            (c :: (cs ++ '\n' :: (List.replicate n ' ' ++ rest)))))) = false := by
        obtain rfl | hbefore := hblanks
        · rfl
        · have hsign : (c == '#') = false := by simpa [hbefore] using hcomment
          have hzero : (column == 0) = false := by simp; omega
          have hinside : decide (column < indent) = false := by simp; omega
          rw [hsign, hzero, hinside]
          simp
      have hends :
          endsPlain false (c :: (cs ++ '\n' :: (List.replicate n ' ' ++ rest))) = false := by
        rw [endsPlain, startsBlank_append_break (by decide), hcolon]
        rfl
      rw [if_neg hblank, hbreak, if_neg (by decide), hstop, if_neg (by decide), hends,
        Bool.false_and, if_neg (by decide), if_neg (by decide), Gap.none,
        ih h.tail (Or.inl rfl) (by omega), prepend_ok, Gap.text]
      simp

/-- What begins a plain text may stand behind a letter. -/
lemma misleadsWithin_cons_of_isAlpha {a : Char} (ha : a.isAlpha = true) (h : misleads cs = false) :
    misleadsWithin (a :: cs) = false := by
  cases cs with
  | nil => rfl
  | cons c cs =>
    simp only [misleads, Bool.or_eq_false_iff] at h
    obtain ⟨⟨-, hstart⟩, hwithin⟩ := h
    have hcolon : (c == ':' && startsBlank cs) = false := by
      simp only [misleadsAtStart, Bool.or_eq_false_iff] at hstart
      by_contra hcolon
      simp_all
    rw [misleadsWithin, hwithin, hcolon, not_isBlank_of_isAlpha ha, not_isBreak_of_isAlpha ha]
    simp

lemma allowsPlain_iff : allowsPlain cs = true ↔ allowsSingleQuotes cs = true ∧
    (∀ c ∈ cs, isBreak c = false) ∧ (∀ c ∈ cs.head?, isSpace c = false) ∧
    (∀ c ∈ cs.getLast?, isSpace c = false) ∧ misleads cs = false := by
  have hany (x : Option Char) : x.any isSpace = false ↔ ∀ c ∈ x, isSpace c = false := by
    cases x <;> simp
  simp [allowsPlain, hasAtEnd, hany, and_assoc]

lemma isPlain_of_allowsSingleQuotes (h : allowsSingleQuotes cs = true) :
    ∀ c ∈ cs, isPlain c = true := by
  simp only [allowsSingleQuotes, Bool.and_eq_true] at h
  exact List.all_eq_true.1 h.1.1

lemma goesOn_of_allowsPlain {a : Char} (ha : a.isAlpha = true) (h : allowsPlain cs = true) :
    GoesOn a cs := by
  obtain ⟨hquotes, hbreak, -, hlast, hmisleads⟩ := allowsPlain_iff.1 h
  have hplain := isPlain_of_allowsSingleQuotes hquotes
  refine ⟨hplain, hbreak, misleadsWithin_cons_of_isAlpha ha hmisleads, ?_⟩
  cases cs with
  | nil =>
    rintro _ ⟨⟩
    exact not_isBlank_of_isAlpha ha
  | cons c cs =>
    rw [List.getLast?_cons_cons]
    intro d hd
    rw [isBlank_eq_isSpace (hplain d (List.mem_of_getLast? hd)), hlast d hd]

/-- A text that is written plain is read back. -/
theorem plainFrom_written (h : allowsPlain cs = true) (hcolumn : indent ≤ column) {n : Nat}
    (hn : n < indent) (hrest : ∀ c ∈ rest.head?, c.isAlpha = true) :
    plainFrom false indent column .none (cs ++ '\n' :: (List.replicate n ' ' ++ rest)) =
      .ok (cs, rest, true) :=
  plainFrom_goesOn (goesOn_of_allowsPlain (a := 'a') (by decide) h) (Or.inl rfl) hcolumn hn hrest

end

/-! ## Scalars in single quotes -/

section

variable {indent : Nat} {before : Char} {lineStart : Bool} {gap : Gap}

/-- What may follow `before` between single quotes: no blank beside the end of a line, which is not
the common one. -/
structure Quotable (before : Char) (cs : List Char) : Prop where
  isPlain : ∀ c ∈ cs, isPlain c = true
  ne_newline : ∀ c ∈ cs, c ≠ '\n'
  no_leading : hasPair isBreak isSpace (before :: cs) = false
  no_trailing : hasPair isSpace isBreak (before :: cs) = false

lemma Quotable.tail (h : Quotable before (c :: cs)) : Quotable c cs where
  isPlain d hd := h.isPlain d (List.mem_cons_of_mem c hd)
  ne_newline d hd := h.ne_newline d (List.mem_cons_of_mem c hd)
  no_leading := by
    have hpair := h.no_leading
    rw [hasPair, Bool.or_eq_false_iff] at hpair
    exact hpair.2
  no_trailing := by
    have hpair := h.no_trailing
    rw [hasPair, Bool.or_eq_false_iff] at hpair
    exact hpair.2

/-- The gap that is held behind a character: the blanks of which it is the last, or the ends of
lines of which it is the last. -/
inductive HeldBehind (before : Char) : (lineStart : Bool) → Gap → Prop
  | blanks {blanks : List Char} (h : blanks = [] ∨ isSpace before = true) :
      HeldBehind before false (.blanks blanks)
  | lines {first : Char} {more : List Char} (hbefore : isBreak before = true)
      (hfirst : first ≠ '\n') : HeldBehind before true (.lines (some first) more)

lemma singleQuotedFrom_of_isBlank (gap : Gap) (h : isBlank c = true) (cs : List Char) :
    singleQuotedFrom lineStart gap (c :: cs) = singleQuotedFrom false (gap.addBlank c) cs := by
  rw [singleQuotedFrom.eq_def]
  exact if_pos h

lemma singleQuotedFrom_of_isBreak (gap : Gap) (h : isBreak c = true) (cs : List Char) :
    singleQuotedFrom lineStart gap (c :: cs) = singleQuotedFrom true (gap.addBreak c) cs := by
  have hblank : ¬ isBlank c = true := fun hblank => by
    rw [not_isBreak_of_isBlank hblank] at h
    cases h
  rw [singleQuotedFrom.eq_def]
  exact (if_neg hblank).trans (if_pos h)

/-- The blanks in front of a line are passed over. -/
lemma singleQuotedFrom_blanks (n : Nat) (first : Option Char) (more cs : List Char) :
    singleQuotedFrom lineStart (.lines first more) (List.replicate (n + 1) ' ' ++ cs) =
      singleQuotedFrom false (.lines first more) cs := by
  induction n generalizing lineStart with
  | zero => exact singleQuotedFrom_of_isBlank _ (by decide) cs
  | succ n ih => exact (singleQuotedFrom_of_isBlank _ (by decide) _).trans ih

lemma text_lines {first : Char} (h : first ≠ '\n') (more : List Char) :
    (Gap.lines (some first) more).text = first :: more.reverse := by
  unfold Gap.text
  split
  · next heq => cases heq
  · next heq => exact absurd (Option.some.inj (Gap.lines.inj heq).1) h
  · next heq => exact absurd (Option.some.inj (Gap.lines.inj heq).1) h
  · next heq =>
    obtain ⟨rfl, rfl⟩ := Gap.lines.inj heq
    rfl

/-- A character that is neither a blank nor the end of a line ends the gap. -/
lemma singleQuotedFrom_char (gap : Gap) (hblank : isBlank c = false) (hbreak : isBreak c = false)
    (cs : List Char) :
    singleQuotedFrom false gap ((if c = '\'' then ['\'', '\''] else [c]) ++ cs) =
      prepend (gap.text ++ [c]) (singleQuotedFrom false .none cs) := by
  rw [← prepend_prepend]
  split
  · next hquote =>
    subst hquote
    rw [List.cons_append, singleQuotedFrom.eq_def]
    rfl
  · next hquote =>
    rw [List.singleton_append, singleQuotedFrom.eq_def]
    simp [hblank, hbreak, hquote]

/-- The closing quote gives what the gap before it stands for. -/
lemma singleQuotedFrom_close (gap : Gap) (hrest : rest.head? ≠ some '\'') :
    singleQuotedFrom false gap ('\'' :: rest) = .ok (gap.text, rest) := by
  have hend : singleQuotedFrom false gap ('\'' :: rest) = prepend gap.text (.ok ([], rest)) := by
    cases rest with
    | nil => rfl
    | cons c rest =>
      have hc : c ≠ '\'' := fun h => hrest (congrArg some h)
      rw [singleQuotedFrom.eq_def]
      refine congrArg (prepend gap.text) ((if_pos rfl).trans ?_)
      split
      · next heq => exact absurd (List.cons.inj heq).1 hc
      · rfl
  rw [hend, prepend_ok, List.append_nil]

/-- The induction is on what is left of the text, with the gap before it. -/
lemma singleQuotedFrom_quotable (h : Quotable before cs) (hgap : HeldBehind before lineStart gap)
    (hrest : rest.head? ≠ some '\'') :
    singleQuotedFrom lineStart gap
        (singleQuotedChars (indent + 1) lineStart cs ++ '\'' :: rest) =
      .ok (gap.text ++ cs, rest) := by
  induction cs generalizing before lineStart gap with
  | nil =>
    rw [List.append_nil]
    cases hgap with
    | blanks _ => exact singleQuotedFrom_close _ hrest
    | lines _ _ =>
      rw [singleQuotedChars, if_pos rfl, singleQuotedFrom_blanks]
      exact singleQuotedFrom_close _ hrest
  | cons c cs ih =>
    have hplain := h.isPlain c List.mem_cons_self
    have hleading := h.no_leading
    have htrailing := h.no_trailing
    rw [hasPair, Bool.or_eq_false_iff] at hleading htrailing
    by_cases hbreak : isBreak c = true
    · rw [singleQuotedChars, if_pos hbreak, List.cons_append,
        singleQuotedFrom_of_isBreak gap hbreak]
      have hne := h.ne_newline c List.mem_cons_self
      cases hgap with
      | blanks hblanks =>
        have hbefore : ¬ isSpace before = true := fun hspace => by
          simp [hspace, hbreak] at htrailing
        obtain rfl := hblanks.resolve_right hbefore
        rw [Gap.addBreak, ih h.tail (.lines hbreak hne), text_lines hne]
        rfl
      | lines _ hfirst =>
        rw [Gap.addBreak, ih h.tail (.lines hbreak hfirst), text_lines hfirst, text_lines hfirst]
        simp
    · have hskip : singleQuotedFrom lineStart gap
          (singleQuotedChars (indent + 1) lineStart (c :: cs) ++ '\'' :: rest) =
            singleQuotedFrom false gap ((if c = '\'' then ['\'', '\''] else [c]) ++
              (singleQuotedChars (indent + 1) false cs ++ '\'' :: rest)) := by
        rw [singleQuotedChars, if_neg hbreak, List.append_assoc, List.append_assoc]
        cases hgap with
        | blanks _ => rfl
        | lines _ _ => exact singleQuotedFrom_blanks indent _ _ _
      rw [hskip]
      by_cases hblank : isBlank c = true
      · have hspace : isSpace c = true := isBlank_eq_isSpace hplain ▸ hblank
        have hquote : c ≠ '\'' := by
          rintro rfl
          cases hspace
        cases hgap with
        | blanks _ =>
          rw [if_neg hquote, List.singleton_append, singleQuotedFrom_of_isBlank _ hblank,
            Gap.addBlank, ih h.tail (.blanks (Or.inr hspace))]
          simp [Gap.text]
        | lines hbefore _ => simp [hbefore, hspace] at hleading
      · rw [singleQuotedFrom_char gap (eq_false_of_ne_true hblank) (eq_false_of_ne_true hbreak),
          Gap.none, ih h.tail (.blanks (Or.inl rfl)), prepend_ok]
        simp [Gap.text]

/-- A text that is written in single quotes is read back. -/
theorem singleQuotedFrom_written (h : allowsSingleQuotes cs = true) (hnewline : '\n' ∉ cs)
    (hrest : rest.head? ≠ some '\'') :
    singleQuotedFrom false .none (singleQuotedChars (indent + 1) false cs ++ '\'' :: rest) =
      .ok (cs, rest) := by
  have hquotable : Quotable 'a' cs := by
    refine ⟨isPlain_of_allowsSingleQuotes h, fun c hc hnl => hnewline (hnl ▸ hc), ?_, ?_⟩
    all_goals
      simp only [allowsSingleQuotes, Bool.and_eq_true, Bool.not_eq_true'] at h
      cases cs with
      | nil => rfl
      | cons c cs =>
        rw [hasPair, Bool.or_eq_false_iff]
        exact ⟨by rfl, by simp [h]⟩
  exact singleQuotedFrom_quotable hquotable (.blanks (Or.inl rfl)) hrest

end

/-! ## Scalars in double quotes -/

section

variable {lineStart : Bool} {gap : Gap} {digits : List Char}

/-- An escape by number stands for the character whose number its digits spell. -/
lemma doubleQuotedFrom_digits {value n : Nat} (hne : digits ≠ [])
    (hdigits : Number.digitsAfter? 16 value digits = some n) (hc : charOfNumber? n = some c)
    (cs : List Char) :
    doubleQuotedFrom lineStart gap (some (digits.length, value)) (digits ++ cs) =
      prepend [c] (doubleQuotedFrom false .none none cs) := by
  induction digits generalizing lineStart gap value with
  | nil => exact absurd rfl hne
  | cons d digits ih =>
    rw [Number.digitsAfter?] at hdigits
    obtain ⟨v, hv, hdigits⟩ := Option.bind_eq_some_iff.1 hdigits
    rw [List.cons_append, doubleQuotedFrom]
    cases digits with
    | nil =>
      obtain rfl := Option.some.inj hdigits
      simp [hv, hc]
    | cons e digits =>
      have hmany : ¬ (d :: e :: digits).length ≤ 1 := by simp
      simp only [hv, if_neg hmany]
      exact ih (List.cons_ne_nil e digits) hdigits

lemma digitsAfter?_replicate_zero (n : Nat) (cs : List Char) :
    Number.digitsAfter? 16 0 (List.replicate n '0' ++ cs) = Number.digitsAfter? 16 0 cs := by
  induction n with
  | zero => rfl
  | succ n ih => exact ih

/-- Hexadecimal digits spell their number, and are as many as they should be if there is room. -/
lemma digitsAfter?_hexDigits (width n : Nat) :
    Number.digitsAfter? 16 0 (hexDigits width n) = some n := by
  rw [hexDigits, digitsAfter?_replicate_zero]
  exact Number.digitsAfter?_toDigits (by decide) (by decide) n

lemma length_hexDigits {width n : Nat} (hwidth : 0 < width) (h : n < 16 ^ width) :
    (hexDigits width n).length = width := by
  have hle := (Nat.length_toDigits_le_iff (by decide) hwidth).2 h
  simp [hexDigits]
  omega

lemma escaped?_of_escapeLetter? {letter : Char} (h : escapeLetter? c = some letter) :
    escaped? letter = some c ∧ isBreak letter = false := by
  unfold escapeLetter? at h
  split at h
  all_goals
    cases h
    try decide

lemma charOfNumber?_toNat (c : Char) : charOfNumber? c.toNat = some c := by
  have hvalid : c.toNat.isValidChar := c.valid
  rw [charOfNumber?, if_pos hvalid, Char.ofNat_toNat]

/-- A backslash ends the gap before it. -/
lemma doubleQuotedFrom_letter (gap : Gap) {letter : Char} (hletter : escaped? letter = some c)
    (hbreak : isBreak letter = false) (cs : List Char) :
    doubleQuotedFrom false gap none ('\\' :: letter :: cs) =
      prepend (gap.text ++ [c]) (doubleQuotedFrom false .none none cs) := by
  rw [← prepend_prepend]
  refine congrArg (prepend gap.text) ((if_neg (ne_true_of_eq_false hbreak)).trans ?_)
  rw [hletter]

lemma doubleQuotedFrom_number (gap : Gap) {letter : Char} {width : Nat} (hwidth : 0 < width)
    (hescaped : escaped? letter = none) (hletter : escapeDigits? letter = some width)
    (hbreak : isBreak letter = false) (hc : c.toNat < 16 ^ width) (cs : List Char) :
    doubleQuotedFrom false gap none ('\\' :: letter :: (hexDigits width c.toNat ++ cs)) =
      prepend (gap.text ++ [c]) (doubleQuotedFrom false .none none cs) := by
  have hlength := length_hexDigits hwidth hc
  have hne : hexDigits width c.toNat ≠ [] := List.ne_nil_of_length_pos (by omega)
  have hread : doubleQuotedFrom false .none (some (width, 0)) (hexDigits width c.toNat ++ cs) =
      prepend [c] (doubleQuotedFrom false .none none cs) := by
    rw [← doubleQuotedFrom_digits hne (digitsAfter?_hexDigits width c.toNat)
      (charOfNumber?_toNat c) cs, hlength]
  rw [← prepend_prepend]
  refine congrArg (prepend gap.text) ((if_neg (ne_true_of_eq_false hbreak)).trans ?_)
  rw [hescaped, hletter]
  exact hread

/-- Every character but the space ends the gap before it. -/
lemma doubleQuotedFrom_char (gap : Gap) (hspace : isSpace c = false) (cs : List Char) :
    doubleQuotedFrom false gap none (doubleQuotedChar c ++ cs) =
      prepend (gap.text ++ [c]) (doubleQuotedFrom false .none none cs) := by
  unfold doubleQuotedChar
  split
  · next hself =>
    simp only [Bool.and_eq_true, Bool.not_eq_true', bne_iff_ne, ne_eq] at hself
    obtain ⟨⟨⟨hplain, hbreak⟩, hquote⟩, hslash⟩ := hself
    have hblank : isBlank c = false := (isBlank_eq_isSpace hplain).trans hspace
    rw [← prepend_prepend, List.singleton_append]
    cases cs <;>
    exact (if_neg (ne_true_of_eq_false hblank)).trans ((if_neg (ne_true_of_eq_false hbreak)).trans
      (congrArg (prepend gap.text) ((if_neg hquote).trans (if_neg hslash))))
  · split
    · next letter hletter =>
      obtain ⟨hescaped, hbreak⟩ := escaped?_of_escapeLetter? hletter
      exact doubleQuotedFrom_letter gap hescaped hbreak cs
    · have hvalid : c.toNat < 0x110000 := by
        have := c.valid
        rw [UInt32.isValidChar, Nat.isValidChar] at this
        show c.val.toNat < _
        omega
      dsimp only
      split
      · exact doubleQuotedFrom_number gap (by decide) rfl rfl (by decide) (by omega) cs
      · split
        · exact doubleQuotedFrom_number gap (by decide) rfl rfl (by decide) (by omega) cs
        · exact doubleQuotedFrom_number gap (by decide) rfl rfl (by decide) (by omega) cs

lemma doubleQuotedFrom_space (blanks cs : List Char) :
    doubleQuotedFrom false (.blanks blanks) none (doubleQuotedChar ' ' ++ cs) =
      doubleQuotedFrom false (.blanks (' ' :: blanks)) none cs := by
  rw [show doubleQuotedChar ' ' = [' '] by decide, List.singleton_append]
  cases cs <;> rfl

/-- A text that is written in double quotes is read back. -/
theorem doubleQuotedFrom_written (blanks cs rest : List Char) :
    doubleQuotedFrom false (.blanks blanks) none (cs.flatMap doubleQuotedChar ++ '"' :: rest) =
      .ok (blanks.reverse ++ cs, rest) := by
  induction cs generalizing blanks with
  | nil =>
    rw [List.flatMap_nil, List.nil_append, List.append_nil]
    cases rest <;> exact congrArg Except.ok (Prod.ext (List.append_nil _) rfl)
  | cons c cs ih =>
    rw [List.flatMap_cons, List.append_assoc]
    by_cases hspace : isSpace c = true
    · obtain rfl : c = ' ' := by simpa [isSpace] using hspace
      rw [doubleQuotedFrom_space, ih]
      simp
    · rw [doubleQuotedFrom_char _ (eq_false_of_ne_true hspace), Gap.none, ih, prepend_ok]
      simp [Gap.text]

end

end OscRemote.Yaml
