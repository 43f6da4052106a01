import Mathlib.Data.List.Induction
import OscRemote.Proofs.Yaml.Scalar

/-!
# Blocks that are written are read back

A text of several lines is its lines up to the last that is not empty, and line ends behind it
(`exists_append_breaks`).  The former are read back whatever a block says of itself; for the latter
the writer names the one of three ways of chomping by which just these stay (`tail_chompingFor`).
-/

namespace OscRemote.Yaml

variable {c : Char} {cs rest body ends : List Char} {chomping : Chomping} {indent : Nat}

/-! ## Lines -/

/-- Characters that do not end a line are kept, and so are line ends between lines. -/
lemma exists_append_breaks (cs : List Char) : ∃ body ends, cs = body ++ ends ∧
    (∀ c ∈ ends, isBreak c = true) ∧ ∀ c ∈ body.getLast?, isBreak c = false := by
  induction cs using List.reverseRecOn with
  | nil => exact ⟨[], [], rfl, by simp, by simp⟩
  | append_singleton cs c ih =>
    by_cases hc : isBreak c = true
    · obtain ⟨body, ends, rfl, hends, hbody⟩ := ih
      refine ⟨body, ends ++ [c], List.append_assoc body ends [c], ?_, hbody⟩
      rw [List.forall_mem_append]
      exact ⟨hends, by simp [hc]⟩
    · exact ⟨cs ++ [c], [], (List.append_nil _).symm, by simp, by simp [hc]⟩

lemma blockChars_append_breaks (hends : ∀ c ∈ ends, isBreak c = true) (lineStart : Bool)
    (cs : List Char) : blockChars indent lineStart (cs ++ ends) =
      blockChars indent lineStart cs ++ ends := by
  induction cs generalizing lineStart with
  | nil =>
    induction ends generalizing lineStart with
    | nil => rfl
    | cons c ends ih =>
      obtain ⟨hc, hends⟩ := List.forall_mem_cons.1 hends
      rw [List.nil_append, blockChars, blockChars, if_pos hc]
      exact congrArg (c :: ·) (ih hends true)
  | cons c cs ih =>
    rw [List.cons_append, blockChars, blockChars]
    split
    · rw [ih, List.cons_append]
    · rw [ih, List.append_assoc, List.cons_append]

lemma betweenLines_literal (lastEnd : Option Char) (more : List Char) (blank : Bool) :
    betweenLines false lastEnd more blank = lastEnd.toList ++ more.reverse :=
  rfl

/-- The blanks in front of a line are passed over. -/
lemma blockFrom_blanks {n column : Nat} (h : column + n = indent) (lastEnd : Option Char)
    (ends : List Char) (blank : Bool) (cs : List Char) :
    blockFrom false chomping indent (.before column lastEnd ends blank)
        (List.replicate n ' ' ++ cs) =
      blockFrom false chomping indent (.before indent lastEnd ends blank) cs := by
  induction n generalizing column with
  | zero =>
    obtain rfl : column = indent := h
    rfl
  | succ n ih =>
    rw [List.replicate_succ, List.cons_append, blockFrom, if_pos ⟨rfl, by omega⟩]
    exact ih (by omega)

lemma blockFrom_inLine (hc : isBreak c = false) (blank : Bool) (cs : List Char) :
    blockFrom false chomping indent (.inLine blank) (c :: cs) =
      prepend [c] (blockFrom false chomping indent (.inLine blank) cs) := by
  rw [blockFrom, hc, if_neg (by decide)]

lemma blockFrom_inLine_break (hc : isBreak c = true) (blank : Bool) (cs : List Char) :
    blockFrom false chomping indent (.inLine blank) (c :: cs) =
      blockFrom false chomping indent (.before 0 (some c) [] blank) cs := by
  rw [blockFrom, if_pos hc]

lemma blockFrom_before_break (hc : isBreak c = true) (lastEnd : Option Char) (ends : List Char)
    (blank : Bool) (cs : List Char) :
    blockFrom false chomping indent (.before 0 lastEnd ends blank) (c :: cs) =
      blockFrom false chomping indent (.before 0 lastEnd (c :: ends) blank) cs := by
  have hspace : c ≠ ' ' := by rintro rfl; cases hc
  have htab : c ≠ '\t' := by rintro rfl; cases hc
  rw [blockFrom]
  simp [hspace, htab, hc]

lemma blockFrom_before (hc : isBreak c = false) (lastEnd : Option Char) (ends : List Char)
    (blank : Bool) (cs : List Char) :
    blockFrom false chomping indent (.before indent lastEnd ends blank) (c :: cs) =
      prepend (lastEnd.toList ++ ends.reverse ++ [c])
        (blockFrom false chomping indent (.inLine (isBlank c)) cs) := by
  rw [blockFrom]
  simp [hc, betweenLines_literal]

/-- Behind the last line, the line ends that are kept are read, and nothing else. -/
lemma blockFrom_breaks (hends : ∀ c ∈ ends, isBreak c = true) (hindent : 0 < indent)
    (hrest : ∀ c ∈ rest.head?, isBlank c = false ∧ isBreak c = false) (lastEnd : Option Char)
    (more : List Char) (blank : Bool) :
    blockFrom false chomping indent (.before 0 lastEnd more blank) (ends ++ rest) =
      .ok (chomping.tail lastEnd (ends.reverse ++ more), rest) := by
  induction ends generalizing more with
  | nil =>
    cases rest with
    | nil => rfl
    | cons c rest =>
      obtain ⟨hblank, hbreak⟩ := hrest c rfl
      have hspace : c ≠ ' ' := by rintro rfl; cases hblank
      have htab : c ≠ '\t' := by rintro rfl; cases hblank
      rw [List.nil_append, blockFrom]
      simp [hspace, htab, hbreak, Nat.ne_of_lt hindent]
  | cons c ends ih =>
    obtain ⟨hc, hends⟩ := List.forall_mem_cons.1 hends
    rw [List.cons_append, blockFrom_before_break hc, ih hends, List.reverse_cons, List.append_assoc,
      List.singleton_append]

/-- Up to its last character that does not end a line, a text is read back from its lines: from
within a line and, behind the line ends before it, from the start of one. -/
lemma blockFrom_blockChars (chomping : Chomping) (indent : Nat)
    (hbody : ∀ c ∈ body.getLast?, isBreak c = false) (more : List Char) :
    (∀ blank, ∃ blank', blockFrom false chomping indent (.inLine blank)
        (blockChars indent false body ++ more) =
      prepend body (blockFrom false chomping indent (.inLine blank') more)) ∧
    (body ≠ [] → ∀ lastEnd ends blank, ∃ blank',
      blockFrom false chomping indent (.before 0 lastEnd ends blank)
          (blockChars indent true body ++ more) =
        prepend (lastEnd.toList ++ ends.reverse ++ body)
          (blockFrom false chomping indent (.inLine blank') more)) := by
  induction body with
  | nil =>
    refine ⟨fun blank => ⟨blank, ?_⟩, fun h => absurd rfl h⟩
    rw [blockChars, List.nil_append, prepend_nil]
  | cons c cs ih =>
    have hcs : ∀ d ∈ cs.getLast?, isBreak d = false := fun d hd => hbody d (by
      cases cs with
      | nil => cases hd
      | cons e cs => rwa [List.getLast?_cons_cons])
    obtain ⟨hin, hbefore⟩ := ih hcs
    by_cases hc : isBreak c = true
    · -- A line end is not the last character, so a line follows it.
      have hne : cs ≠ [] := by
        rintro rfl
        rw [hbody c rfl] at hc
        cases hc
      refine ⟨fun blank => ?_, fun _ lastEnd ends blank => ?_⟩
      · obtain ⟨blank', h⟩ := hbefore hne (some c) [] blank
        exact ⟨blank', by
          rw [blockChars, if_pos hc, List.cons_append, blockFrom_inLine_break hc, h]; rfl⟩
      · obtain ⟨blank', h⟩ := hbefore hne lastEnd (c :: ends) blank
        exact ⟨blank', by
          rw [blockChars, if_pos hc, List.cons_append, blockFrom_before_break hc, h,
            List.reverse_cons, ← List.append_assoc, List.append_assoc, List.singleton_append]⟩
    · have hc := eq_false_of_ne_true hc
      refine ⟨fun blank => ?_, fun _ lastEnd ends blank => ?_⟩
      · obtain ⟨blank', h⟩ := hin blank
        exact ⟨blank', by
          rw [blockChars, hc, if_neg (by decide), if_neg (by decide), List.nil_append,
            List.cons_append, blockFrom_inLine hc, h, prepend_prepend, List.singleton_append]⟩
      · obtain ⟨blank', h⟩ := hin (isBlank c)
        exact ⟨blank', by
          rw [blockChars, hc, if_neg (by decide), if_pos rfl, List.append_assoc,
            blockFrom_blanks (Nat.zero_add indent), List.cons_append, blockFrom_before hc, h,
            prepend_prepend, List.append_assoc, List.singleton_append]⟩

/-! ## Line ends at the end -/

/-- The sign that a block has for a way of chomping. -/
def Chomping.sign : Chomping → List Char
  | strip => ['-']
  | clip => []
  | keep => ['+']

/-- The way of chomping that leaves the line ends at the end of a text as they are. -/
def chompingFor (cs : List Char) : Chomping :=
  match cs.reverse with
  | [] => .strip
  | [c] => if isBreak c then .keep else .strip
  | c :: d :: _ => if isBreak c then (if isBreak d then .keep else .clip) else .strip

lemma blockHints_eq (cs : List Char) : blockHints 2 cs =
    (if cs.head?.any fun c => isSpace c || isBreak c then ['2'] else []) ++
      (chompingFor cs).sign := by
  have hdigits : Nat.toDigits 10 2 = ['2'] := by decide
  rw [blockHints, chompingFor, hdigits]
  congr 1
  rcases cs.reverse with _ | ⟨c, _ | ⟨d, _⟩⟩
  · rfl
  · cases hc : isBreak c <;> simp [hc, Chomping.sign]
  · cases hc : isBreak c <;> cases hd : isBreak d <;> simp [hc, hd, Chomping.sign]

lemma chompingFor_of_not_isBreak (h : ∀ c ∈ cs.getLast?, isBreak c = false) :
    chompingFor cs = .strip := by
  have hhead : ∀ c ∈ cs.reverse.head?, isBreak c = false := by
    rwa [List.head?_reverse]
  unfold chompingFor
  split
  · rfl
  · next c hc => simp [hhead c (by rw [hc]; rfl)]
  · next c d _ hc => simp [hhead c (by rw [hc]; rfl)]

/-- Line ends behind nothing else are all kept. -/
lemma chompingFor_breaks (hends : ∀ c ∈ ends, isBreak c = true) (hne : ends ≠ []) :
    chompingFor ends = .keep := by
  have hreverse : ∀ c ∈ ends.reverse, isBreak c = true := fun c hc =>
    hends c (List.mem_reverse.1 hc)
  unfold chompingFor
  split
  · next hnil => exact absurd (List.reverse_eq_nil_iff.1 hnil) hne
  · next c hc => simp [hreverse c (by simp [hc])]
  · next c d _ hc => simp [hreverse c (by simp [hc]), hreverse d (by simp [hc])]

/-- The line ends behind the last line are those that the way of chomping leaves. -/
lemma tail_chompingFor (hbody : ∀ c ∈ body.getLast?, isBreak c = false) (hne : body ≠ [])
    (hc : isBreak c = true) (hends : ∀ c ∈ ends, isBreak c = true) :
    (chompingFor (body ++ c :: ends)).tail (some c) ends.reverse = c :: ends := by
  cases hreverse : ends.reverse with
  | nil =>
    obtain rfl := List.reverse_eq_nil_iff.1 hreverse
    obtain ⟨init, last, rfl⟩ : ∃ init last, body = init ++ [last] :=
      ⟨_, _, (List.dropLast_append_getLast hne).symm⟩
    have hlast : isBreak last = false := hbody last (by simp)
    simp [chompingFor, hc, hlast, Chomping.tail]
  | cons last others =>
    -- At least two line ends are behind the last line, so all are kept.
    have hkeep : chompingFor (body ++ c :: ends) = .keep := by
      have hbreaks : ∀ d ∈ last :: others, isBreak d = true := fun d hd =>
        hends d (List.mem_reverse.1 (hreverse ▸ hd))
      rw [chompingFor, List.reverse_append, List.reverse_cons, hreverse]
      cases others with
      | nil => simp [hc, hbreaks last]
      | cons other others => simp [hbreaks last, hbreaks other]
    rw [hkeep, ← hreverse, Chomping.tail, List.reverse_reverse]
    rfl

/-! ## Blocks -/

/-- What a block says of itself is understood. -/
lemma blockHeader_hints (explicit : Bool) (chomping : Chomping) (cs : List Char) :
    blockHeader ((if explicit then ['2'] else []) ++ chomping.sign ++ '\n' :: cs) =
      .ok ({ chomping, increment := if explicit then some 2 else none }, cs) := by
  cases explicit <;> cases chomping <;> rfl

/-- How far the lines are set in is seen from the first, if it begins with a text. -/
lemma detectIndent_blockChars (hspace : isSpace c = false) (htab : c ≠ '\t')
    (hbreak : isBreak c = false) (cs more : List Char) :
    detectIndent 1 0 0 (blockChars 2 true (c :: cs) ++ more) = .ok 2 := by
  have hne : c ≠ ' ' := by simpa [isSpace] using hspace
  rw [blockChars, hbreak, if_neg (by decide), if_pos rfl]
  show detectIndent 1 2 0 (c :: (blockChars 2 false cs ++ more)) = .ok 2
  rw [detectIndent, if_neg hne, if_neg htab, hbreak, if_neg (by decide)]
  rfl

lemma any_getLast?_append (cs : List Char) (hne : ends ≠ [])
    (hends : ∀ c ∈ ends, isBreak c = true) : (cs ++ ends).getLast?.any isBreak = true := by
  rw [List.getLast?_append_of_ne_nil cs hne, List.getLast?_eq_some_getLast hne]
  exact hends _ (List.getLast_mem hne)

/-- The lines of a text are written up to the end of the last. -/
lemma exists_blockChars_eq_append_break (indent : Nat) (cs : List Char) :
    ∃ init last, isBreak last = true ∧ blockChars indent true cs ++
      (if cs.getLast?.any isBreak then [] else ['\n']) = init ++ [last] := by
  obtain ⟨body, ends, rfl, hends, hbody⟩ := exists_append_breaks cs
  by_cases hempty : ends = []
  · subst hempty
    have hlast : body.getLast?.any isBreak = false := by
      cases hlast : body.getLast? with
      | none => rfl
      | some c => exact hbody c hlast
    rw [List.append_nil, hlast]
    exact ⟨_, '\n', by decide, rfl⟩
  · rw [any_getLast?_append body hempty hends, if_pos rfl, List.append_nil,
      blockChars_append_breaks hends, ← List.dropLast_append_getLast hempty]
    exact ⟨_, _, hends _ (List.getLast_mem hempty), (List.append_assoc _ _ _).symm⟩

/-- The lines of a text are read back, with the line ends behind them. -/
lemma blockFrom_written (hindent : 0 < indent)
    (hrest : ∀ c ∈ rest.head?, isBlank c = false ∧ isBreak c = false) (hne : cs ≠ []) :
    blockFrom false (chompingFor cs) indent (.before 0 none [] false)
        (blockChars indent true cs ++
          ((if cs.getLast?.any isBreak then [] else ['\n']) ++ rest)) = .ok (cs, rest) := by
  obtain ⟨body, ends, rfl, hends, hbody⟩ := exists_append_breaks cs
  rw [blockChars_append_breaks hends, List.append_assoc]
  by_cases hempty : body = []
  · subst hempty
    rw [List.nil_append] at hne
    rw [any_getLast?_append [] hne hends, List.nil_append, chompingFor_breaks hends hne]
    refine (blockFrom_breaks hends hindent hrest none [] false).trans ?_
    simp [Chomping.tail]
  · obtain ⟨blank, hread⟩ := (blockFrom_blockChars (chompingFor (body ++ ends)) indent hbody
      (ends ++ ((if (body ++ ends).getLast?.any isBreak then [] else ['\n']) ++ rest))).2 hempty
        none [] false
    rw [hread]
    cases ends with
    | nil =>
      rw [List.append_nil, chompingFor_of_not_isBreak hbody]
      have hlast : body.getLast?.any isBreak = false := by
        rw [List.getLast?_eq_some_getLast hempty]
        exact hbody _ (List.getLast?_eq_some_getLast hempty)
      rw [hlast, if_neg (by decide), List.nil_append, List.cons_append, List.nil_append,
        blockFrom_inLine_break (by decide)]
      have hnothing : blockFrom false .strip indent (.before 0 (some '\n') [] blank) rest =
          .ok ([], rest) :=
        blockFrom_breaks (List.forall_mem_nil _) hindent hrest (some '\n') [] blank
      rw [hnothing, prepend_ok, List.append_nil]
      rfl
    | cons c ends =>
      obtain ⟨hc, hmore⟩ := List.forall_mem_cons.1 hends
      rw [any_getLast?_append body (List.cons_ne_nil c ends) hends, if_pos rfl, List.nil_append,
        List.cons_append, blockFrom_inLine_break hc, blockFrom_breaks hmore hindent hrest,
        List.append_nil, tail_chompingFor hbody hempty hc hmore, prepend_ok]
      rfl

/-- A text that is written as a block is read back. -/
theorem blockScalar_written (hplain : ∀ c ∈ cs, isPlain c = true) (hne : cs ≠ [])
    (hrest : ∀ c ∈ rest.head?, isBlank c = false ∧ isBreak c = false) :
    blockScalar false (some 0) (blockHints 2 cs ++ '\n' :: (blockChars 2 true cs ++
      ((if cs.getLast?.any isBreak then [] else ['\n']) ++ rest))) = .ok (cs, rest) := by
  rw [← blockFrom_written (by decide : 0 < 2) hrest hne, blockHints_eq, blockScalar,
    blockHeader_hints]
  cases hexplicit : cs.head?.any fun c => isSpace c || isBreak c with
  | true => rfl
  | false =>
    cases cs with
    | nil => exact absurd rfl hne
    | cons c cs =>
      obtain ⟨hspace, hbreak⟩ : isSpace c = false ∧ isBreak c = false := by simpa using hexplicit
      have htab := ne_of_isPlain (hplain c List.mem_cons_self) (show isPlain '\t' = false by decide)
      show (detectIndent 1 0 0 _).bind _ = _
      rw [detectIndent_blockChars hspace htab hbreak]
      rfl

end OscRemote.Yaml
