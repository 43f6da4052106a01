import Mathlib.Data.List.TakeDrop
import OscRemote.Proofs.Yaml.Written
import OscRemote.Yaml.Token.Scan

/-!
# Keys and values as tokens

Between two tokens of a block mapping the scanner is in a `standing` state: outside of brackets,
with no place noted at which a key might begin.  From such a state it goes over the name of a key
(`run_name`), over its colon (`run_colon`) and over the value, and stands again.  `WrittenAs` says
the last of characters and the text that they stand for; it holds of a text and the line that is
written for it, whatever the style (`writtenAs_writeScalarLine`).
-/

namespace OscRemote.Yaml

-- To decide about the characters of a text, only these are tried, and not all that there are.
attribute [local instance (2000)] List.decidableBAll Option.decidableExistsMem

variable {c : Char} {cs rest : List Char}

/-! ## Places -/

namespace Place

lemma after_append (p : Place) (cs ds : List Char) : p.after (cs ++ ds) = (p.after cs).after ds :=
  List.foldl_append

lemma column_after_append_break (p : Place) (cs : List Char) (hc : isBreak c = true) :
    (p.after (cs ++ [c])).column = 0 := by
  rw [after_append, after, List.foldl_cons, List.foldl_nil, step, if_pos hc]

/-- Characters within a line move the place by as many columns, and by four octets each at most. -/
lemma after_of_not_isBreak (p : Place) (h : ∀ c ∈ cs, isBreak c = false) :
    (p.after cs).column = p.column + cs.length ∧ (p.after cs).line = p.line ∧
      (p.after cs).octets ≤ p.octets + 4 * cs.length := by
  induction cs generalizing p with
  | nil => exact ⟨rfl, rfl, Nat.le_refl _⟩
  | cons c cs ih =>
    obtain ⟨hc, hcs⟩ := List.forall_mem_cons.1 h
    have hstep : p.step c = ⟨p.octets + c.utf8Size, p.line, p.column + 1⟩ := by
      rw [step, hc, if_neg (by decide)]
    have hsize := c.utf8Size_le_four
    have hcs := ih (p.step c) hcs
    rw [after, List.foldl_cons, ← after, List.length_cons]
    rw [hstep] at hcs ⊢
    simp only at hcs
    omega

lemma column_after_blanks (p : Place) (n : Nat) :
    (p.after (List.replicate n ' ')).column = p.column + n := by
  have hblanks : ∀ c ∈ List.replicate n ' ', isBreak c = false := fun c hc => by
    rw [List.eq_of_mem_replicate hc]
    decide
  rw [(after_of_not_isBreak p hblanks).1, List.length_replicate]

end Place

namespace Scanner

variable {s : Scanner} {keyAllowed : Bool} {place : Place} {ts : List Token} {indent : Option Nat}
  {indents : List (Option Nat)} {fuel n : Nat}

/-- The scanner outside of brackets, with no place of a key noted. -/
def standing (keyAllowed : Bool) (rest : List Char) (place : Place) (ts : List Token)
    (indent : Option Nat) (indents : List (Option Nat)) : Scanner where
  rest := rest
  place := place
  tokens := ts.toArray
  indent := indent
  indents := indents
  keyAllowed := keyAllowed

/-! ## Going on -/

lemma goTo_append (s : Scanner) (passed : List Char) (h : s.rest = passed ++ rest) :
    s.goTo rest = { s with rest, place := s.place.after passed } := by
  have htake : s.rest.take (s.rest.length - rest.length) = passed := by
    rw [h, List.length_append, Nat.add_sub_cancel, List.take_left']
    rfl
  rw [goTo, htake]

lemma skipWhile_append {p : Char → Bool} (passed : List Char) (h : s.rest = passed ++ rest)
    (hpassed : ∀ c ∈ passed, p c = true) (hrest : ∀ c ∈ rest.head?, p c = false) :
    s.skipWhile p = { s with rest, place := s.place.after passed } := by
  have hspan : s.rest.span p = (passed, rest) := by
    rw [List.span_eq_takeWhile_dropWhile, h, List.takeWhile_append_of_pos hpassed,
      List.dropWhile_append_of_pos hpassed]
    cases rest with
    | nil => simp
    | cons c rest =>
      have hc := hrest c rfl
      rw [List.takeWhile_cons_of_neg (by simp [hc]), List.dropWhile_cons_of_neg (by simp [hc]),
        List.append_nil]
  rw [skipWhile, hspan]

/-- Whether a character begins a token, where a byte order mark might be passed over. -/
def Opens (c : Char) : Prop :=
  isBlank c = false ∧ isBreak c = false ∧ c ≠ '#' ∧ c ≠ byteOrderMark

instance (c : Char) : Decidable (Opens c) := inferInstanceAs (Decidable (_ ∧ _))

lemma opens_of_isAlpha (h : c.isAlpha = true) : Opens c := by
  refine ⟨not_isBlank_of_isAlpha h, not_isBreak_of_isAlpha h, ?_, ?_⟩ <;>
  · rintro rfl
    revert h
    decide

/-- Blanks in front of a token are passed over. -/
lemma toToken_blanks (fuel : Nat) (hs : s.rest = List.replicate n ' ' ++ rest)
    (hrest : ∀ c ∈ rest.head?, Opens c) :
    s.toToken (fuel + 1) =
      { s with rest, place := s.place.after (List.replicate n ' ') } := by
  have hmark : ¬ (s.place.column = 0 ∧ s.rest.head? = some byteOrderMark) := by
    rintro ⟨-, hhead⟩
    rw [hs] at hhead
    cases n with
    | zero => exact (hrest _ hhead).2.2.2 rfl
    | succ n => cases hhead
  have hskip (tabs : Bool) : s.skipWhile (fun c => c == ' ' || (tabs && c == '\t')) =
      { s with rest, place := s.place.after (List.replicate n ' ') } := by
    refine skipWhile_append _ hs (fun c hc => ?_) fun c hc => ?_
    · rw [List.eq_of_mem_replicate hc]
      rfl
    · have hblank := (hrest c hc).1
      rw [isBlank, Bool.or_eq_false_iff] at hblank
      rw [hblank.1, hblank.2, Bool.and_false]
      rfl
  have hcomment : ¬ rest.head? = some '#' := fun hhead => (hrest _ hhead).2.2.1 rfl
  rw [toToken, if_neg hmark]
  simp only [hskip, if_neg hcomment]
  cases rest with
  | nil => rfl
  | cons c rest => simp [(hrest c rfl).2.1]

/-- Where a token begins, nothing is passed over. -/
lemma toToken_of_opens (fuel : Nat) (hrest : ∀ c ∈ s.rest.head?, Opens c) :
    s.toToken (fuel + 1) = s :=
  toToken_blanks (n := 0) fuel rfl hrest

/-- Behind the end of a line a key may begin. -/
lemma toToken_newline (fuel : Nat) :
    (standing keyAllowed ('\n' :: rest) place ts indent indents).toToken (fuel + 1) =
      (standing true rest (place.step '\n') ts indent indents).toToken fuel := by
  have hmark : ¬ (place.column = 0 ∧ ('\n' :: rest).head? = some byteOrderMark) := by
    rintro ⟨-, hhead⟩
    exact absurd (Option.some.inj hhead) (by decide)
  have hskip (tabs : Bool) : (standing keyAllowed ('\n' :: rest) place ts indent indents).skipWhile
      (fun c => c == ' ' || (tabs && c == '\t')) =
        standing keyAllowed ('\n' :: rest) place ts indent indents :=
    skipWhile_append [] rfl (by simp) (by rintro c ⟨⟩; cases tabs <;> rfl)
  rw [toToken, standing, if_neg hmark, ← standing]
  simp only [hskip]
  rfl

/-! ## Steps -/

lemma run_congr {s' : Scanner} (h : s.toToken (fuel + 1) = s'.toToken (fuel + 1)) :
    run (fuel + 1) s = run (fuel + 1) s' := by
  rw [run, run, h]

/-- No collection ends where a line goes on to the right of where its items begin. -/
lemma closeBlocks_of_le (h : ∀ n ∈ s.indent, n ≤ s.place.column) :
    s.closeBlocks (some s.place.column) = s := by
  have hgo : closeBlocks.go (some s.place.column) s.indent s.tokens s.indents =
      (s.indent, s.indents, s.tokens) := by
    unfold closeBlocks.go
    cases s.indents with
    | nil => rfl
    | cons outer indents =>
      cases hindent : s.indent with
      | none => rfl
      | some n => simp [Nat.not_lt.2 (h n hindent)]
  rw [closeBlocks, hgo]
  split <;> rfl

/-- One step from the place of a token, where no key that is noted is too far back. -/
lemma run_token (hrest : s.rest = c :: cs) (hopens : Opens c)
    (hkeys : s.dropStaleKeys = .ok s) (hindent : ∀ n ∈ s.indent, n ≤ s.place.column) :
    run (fuel + 1) s = (s.token c cs).bind (run fuel) := by
  have hstay : s.toToken (fuel + 1) = s :=
    toToken_of_opens fuel (by rw [hrest]; rintro _ ⟨⟩; exact hopens)
  rw [run, hstay, hkeys]
  simp only [bind, Except.bind, closeBlocks_of_le hindent, hrest]

lemma dropStaleKeys_standing :
    (standing keyAllowed rest place ts indent indents).dropStaleKeys =
      .ok (standing keyAllowed rest place ts indent indents) :=
  rfl

/-! ## Keys -/

/-- Characters that make the name of a field: letters and underscores, a letter first, and not too
many. -/
def IsName (cs : List Char) : Prop :=
  (∃ c ∈ cs.head?, c.isAlpha = true) ∧ (∀ c ∈ cs, c.isAlpha = true ∨ c = '_') ∧ cs.length ≤ 256

instance (cs : List Char) : Decidable (IsName cs) :=
  inferInstanceAs (Decidable (_ ∧ _ ∧ _))

lemma startsDocumentMark_of_isAlpha (h : c.isAlpha = true) (cs : List Char) :
    startsDocumentMark (c :: cs) = false := by
  have hsign : (c == '-' || c == '.') = false := by
    refine eq_false_of_ne_true fun hsign => ?_
    simp only [Bool.or_eq_true, beq_iff_eq] at hsign
    obtain rfl | rfl := hsign <;> revert h <;> decide
  unfold startsDocumentMark
  split
  · next heq =>
    obtain ⟨rfl, -⟩ := List.cons.inj heq
    rw [hsign, Bool.false_and, Bool.false_and, Bool.false_and]
  · rfl

lemma ne_of_not_misleads (h : misleadsAtStart c cs = false) :
    ∀ d ∈ "#,[]\x7b\x7d&*!|>'\"%@\x60".toList, c ≠ d := by
  rw [misleadsAtStart, Bool.or_eq_false_iff] at h
  rintro d hd rfl
  rw [List.contains_iff_mem.2 hd] at h
  cases h.1

/-- The signs of entries, keys and values are signs before a blank only. -/
lemma not_sign_of_not_misleads (h : misleadsAtStart c cs = false) :
    ∀ sign ∈ ['?', ':', '-'], ¬ (c = sign ∧ startsBlank cs = true) := by
  rw [misleadsAtStart, Bool.or_eq_false_iff] at h
  rintro sign hsign ⟨rfl, hblank⟩
  have hany : (c == '?' || c == ':' || c == '-') = true := by simpa [or_assoc] using hsign
  rw [hany, hblank] at h
  cases h.2

lemma not_startsBlank {sign : Char} (h : ¬ (c = sign ∧ startsBlank cs = true)) (hc : c = sign) :
    startsBlank cs = false :=
  eq_false_of_ne_true fun hblank => h ⟨hc, hblank⟩

lemma startsPlain_of_not_misleads (hopens : Opens c) (h : misleadsAtStart c cs = false) :
    startsPlain false (c :: cs) = true := by
  have hsign := not_sign_of_not_misleads h
  by_cases hindicator : isIndicator c = true
  · have hcases : ∀ d ∈ "-?:,[]\x7b\x7d#&*!|>'\"%@\x60".toList, (d = '?' ∨ d = ':' ∨ d = '-') ∨
        d ∈ "#,[]\x7b\x7d&*!|>'\"%@\x60".toList := by decide
    have hc := (hcases c (List.contains_iff_mem.1 hindicator)).resolve_right
      fun hmem => ne_of_not_misleads h c hmem rfl
    obtain hc | hc | hc := hc
    · simp [startsPlain, hc, not_startsBlank (hsign '?' (by simp)) hc]
    · simp [startsPlain, hc, not_startsBlank (hsign ':' (by simp)) hc]
    · have hhead : cs.head?.any isBlank = false := by
        have hblank := not_startsBlank (hsign '-' (by simp)) hc
        cases cs with
        | nil => rfl
        | cons d cs =>
          rw [startsBlank, Bool.or_eq_false_iff] at hblank
          exact hblank.1
      simp [startsPlain, hc, hhead]
  · simp [startsPlain, hopens.1, hopens.2.1, hindicator]

/-- A plain scalar begins with a character that does not mislead. -/
lemma token_eq_plain (hflow : s.inFlow = false) (hplace : s.place.column ≠ 0 ∨ c.isAlpha = true)
    (hopens : Opens c) (h : misleadsAtStart c cs = false) : s.token c cs = s.plain := by
  have hmark : (s.place.column == 0 && startsDocumentMark (c :: cs)) = false := by
    obtain hcolumn | halpha := hplace
    · rw [beq_false_of_ne hcolumn, Bool.false_and]
    · rw [startsDocumentMark_of_isAlpha halpha, Bool.and_false]
  have hplain := startsPlain_of_not_misleads hopens h
  have hsign := not_sign_of_not_misleads h
  have hne {d : Char} (hd : "#,[]\x7b\x7d&*!|>'\"%@\x60".toList.contains d = true) : c ≠ d :=
    ne_of_not_misleads h d (List.contains_iff_mem.1 hd)
  rw [token, hmark, hflow, hplain]
  simp [hne, hsign '?' (by simp), hsign ':' (by simp), hsign '-' (by simp)]

lemma opens_of_mem_name {name : List Char} (h : IsName name) :
    ∀ c ∈ name, isBlank c = false ∧ isBreak c = false ∧ c ≠ ':' := by
  intro c hc
  obtain halpha | rfl := h.2.1 c hc
  · refine ⟨not_isBlank_of_isAlpha halpha, not_isBreak_of_isAlpha halpha, ?_⟩
    rintro rfl
    revert halpha
    decide
  · decide

/-- A name in front of a colon is read as a plain scalar. -/
lemma plainFrom_name {indent column : Nat} {name : List Char}
    (h : ∀ c ∈ name, isBlank c = false ∧ isBreak c = false ∧ c ≠ ':')
    (hrest : startsBlank rest = true) :
    plainFrom false indent column .none (name ++ ':' :: rest) = .ok (name, ':' :: rest, false) := by
  induction name generalizing column with
  | nil =>
    rw [List.nil_append, plainFrom, if_neg (by decide), if_neg (by decide)]
    have hends : endsPlain false (':' :: rest) = true := by
      rw [endsPlain, hrest]
      rfl
    rw [hends]
    rfl
  | cons c name ih =>
    obtain ⟨⟨hblank, hbreak, hcolon⟩, hname⟩ := List.forall_mem_cons.1 h
    have hends : endsPlain false (c :: (name ++ ':' :: rest)) = false := by
      rw [endsPlain, beq_false_of_ne hcolon]
      rfl
    rw [List.cons_append, plainFrom, hblank, hbreak, hends, ih hname]
    rfl

/-- What a plain scalar makes of the scanner, once a key that may begin here is noted. -/
lemma plain_eq {s' : Scanner} {text : List Char} {broken : Bool} (hnote : s.noteKey = .ok s')
    (passed : List Char) (hpassed : s'.rest = passed ++ rest)
    (hread : plainFrom s'.inFlow (s'.indent.elim 0 (· + 1)) s'.place.column .none s'.rest =
      .ok (text, rest, broken)) :
    s.plain = .ok ({ s' with rest, place := s'.place.after passed, keyAllowed := broken }.emit
      (.scalar text .plain)) := by
  rw [plain, hnote]
  simp only [bind, Except.bind, hread]
  rw [goTo_append { s' with keyAllowed := broken } passed hpassed]
  rfl

/-- The scanner behind the name of a key. -/
def named (name rest : List Char) (place : Place) (ts : List Token) (indent : Option Nat)
    (indents : List (Option Nat)) : Scanner :=
  { standing false (':' :: rest) (place.after name) (ts ++ [.scalar name .plain]) indent
      indents with
    keys := [some ⟨ts.length, place, indent == some place.column⟩] }

/-- The first step over a key goes over its name. -/
lemma run_name {name : List Char} (hname : IsName name) (hrest : startsBlank rest = true)
    (hindent : ∀ n ∈ indent, n ≤ place.column) :
    run (fuel + 1) (standing true (name ++ ':' :: rest) place ts indent indents) =
      run fuel (named name rest place ts indent indents) := by
  obtain ⟨c, hhead, halpha⟩ := hname.1
  obtain ⟨cs, rfl⟩ : ∃ cs, name = c :: cs := by
    cases name with
    | nil => cases hhead
    | cons d cs =>
      obtain rfl := Option.some.inj hhead
      exact ⟨cs, rfl⟩
  have hplain : (standing true (c :: (cs ++ ':' :: rest)) place ts indent indents).plain =
      .ok (named (c :: cs) rest place ts indent indents) := by
    have hnote : (standing true (c :: (cs ++ ':' :: rest)) place ts indent indents).noteKey =
        .ok { standing true (c :: (cs ++ ':' :: rest)) place ts indent indents with
          keys := [some ⟨ts.length, place, indent == some place.column⟩] } := by
      rfl
    rw [plain_eq hnote (c :: cs) rfl (plainFrom_name (opens_of_mem_name hname) hrest), named, emit]
    simp [standing]
  rw [List.cons_append, run_token rfl (opens_of_isAlpha halpha) dropStaleKeys_standing hindent,
    token_eq_plain rfl (Or.inr halpha) (opens_of_isAlpha halpha)
      (misleadsAtStart_of_isWordChar (isWordChar_of_isAlpha halpha) _), hplain]
  rfl

/-- The bracket in front of a key at a column, if the key is the first of its mapping. -/
def opening (column : Nat) (indent : Option Nat) : List Token :=
  if isInside column indent then [.blockMappingStart] else []

/-- The collections around the mapping of a key at a column. -/
def around (column : Nat) (indent : Option Nat) (indents : List (Option Nat)) : List (Option Nat) :=
  if isInside column indent then indent :: indents else indents

/-- Whether a key at a column belongs to the innermost mapping or begins one inside it. -/
def Admits (column : Nat) (indent : Option Nat) : Prop :=
  indent = some column ∨ isInside column indent = true

lemma Admits.le {column : Nat} (h : Admits column indent) : ∀ n ∈ indent, n ≤ column := by
  rintro n ⟨⟩
  obtain heq | hinside := h
  · exact Nat.le_of_eq (Option.some.inj heq)
  · exact Nat.le_of_lt (of_decide_eq_true hinside)

lemma insertIdx_append_length (ts us : List Token) (t : Token) :
    (ts ++ us).insertIdx ts.length t = ts ++ t :: us := by
  induction ts with
  | nil => rfl
  | cons u ts ih => exact congrArg (u :: ·) ih

lemma not_isStale {name : List Char} (hname : IsName name) (place : Place) :
    isStale place (place.after name) = false := by
  obtain ⟨-, hline, hoctets⟩ := Place.after_of_not_isBreak place
    fun c hc => (opens_of_mem_name hname c hc).2.1
  have hlength := hname.2.2
  rw [isStale, maxKey, decide_eq_false (by omega), decide_eq_false (by omega)]
  rfl

/-- The second step over a key goes over the colon, and puts the signs in front of the name. -/
lemma run_colon {name : List Char} (hname : IsName name) (hrest : startsBlank rest = true)
    (hindent : Admits place.column indent) :
    run (fuel + 1) (named name rest place ts indent indents) =
      run fuel (standing false rest ((place.after name).step ':')
        (ts ++ opening place.column indent ++ [.key, .scalar name .plain, .value])
        (some place.column) (around place.column indent indents)) := by
  have hkeys : (named name rest place ts indent indents).dropStaleKeys =
      .ok (named name rest place ts indent indents) := by
    simp only [dropStaleKeys, named, standing, List.mapM_cons, not_isStale hname place]
    rfl
  have hcolumn : ∀ n ∈ indent, n ≤ (place.after name).column := fun n hn => by
    rw [(Place.after_of_not_isBreak place fun c hc => (opens_of_mem_name hname c hc).2.1).1]
    exact Nat.le_add_right_of_le (hindent.le n hn)
  have htoken : (named name rest place ts indent indents).token ':' rest =
      (named name rest place ts indent indents).valueSign := by
    have hmark : startsDocumentMark (':' :: rest) = false := by
      unfold startsDocumentMark
      split
      · next heq =>
        obtain ⟨rfl, -⟩ := List.cons.inj heq
        rfl
      · rfl
    rw [token, hmark]
    simp [hrest]
  have hsign : (named name rest place ts indent indents).valueSign =
      .ok (standing false rest ((place.after name).step ':')
        (ts ++ opening place.column indent ++ [.key, .scalar name .plain, .value])
        (some place.column) (around place.column indent indents)) := by
    rw [valueSign, named, standing]
    simp only [List.insertIdxIfInBounds_toArray, insertIdx_append_length]
    by_cases hinside : isInside place.column indent = true
    · simp [openBlock, inFlow, hinside, opening, around, insertIdx_append_length, skip, emit,
        standing, Place.after]
    · obtain rfl := hindent.resolve_right hinside
      simp [openBlock, inFlow, hinside, opening, around, skip, emit, standing, Place.after]
  rw [run_token rfl (by decide) hkeys hcolumn, htoken, hsign]
  rfl

/-! ## Values -/

/-- Blanks in front of a token do not matter. -/
lemma run_blanks (hrest : ∀ c ∈ rest.head?, Opens c) :
    run (fuel + 1)
        (standing keyAllowed (List.replicate n ' ' ++ rest) place ts indent indents) =
      run (fuel + 1)
        (standing keyAllowed rest (place.after (List.replicate n ' ')) ts indent indents) := by
  refine run_congr ?_
  rw [toToken_blanks fuel (by rfl) hrest, toToken_of_opens fuel hrest]
  rfl

/-- The end of a line in front of another allows a key. -/
lemma run_newline (fuel : Nat) (keyAllowed : Bool) (place : Place) (ts : List Token)
    (indent : Option Nat) (indents : List (Option Nat)) (hrest : LineBegins (n + 1) rest) :
    run (fuel + 2) (standing keyAllowed ('\n' :: rest) place ts indent indents) =
      run (fuel + 2) (standing true rest (place.step '\n') ts indent indents) := by
  obtain ⟨k, rest, -, rfl, halpha⟩ := hrest
  have hopens : ∀ c ∈ rest.head?, Opens c := fun c hc => opens_of_isAlpha (halpha c hc)
  refine run_congr ?_
  rw [toToken_newline, toToken_blanks fuel (by rfl) hopens,
    toToken_blanks (fuel + 1) (by rfl) hopens]

/-- Whether characters behind the sign for a value are read as a scalar in a mapping whose keys
begin at column `n`.  They reach over the end of the line, so that the scanner stands at the start
of the next. -/
def WrittenAs (n : Nat) (written text : List Char) (style : Style) : Prop :=
  ∀ fuel more place ts indents, n ≤ place.column → LineBegins (n + 1) more →
    ∃ p, p.column = 0 ∧
      run (fuel + 3) (standing false (' ' :: (written ++ more)) place ts (some n) indents) =
        run (fuel + 2) (standing true more p (ts ++ [.scalar text style]) (some n) indents)

/-- The step over a value, from behind the blank in front of it. -/
lemma run_value (hopens : Opens c) (hplace : n ≤ place.column) :
    run (fuel + 1) (standing false (' ' :: c :: cs) place ts (some n) indents) =
      ((standing false (c :: cs) (place.step ' ') ts (some n) indents).token c cs).bind
        (run fuel) := by
  refine (run_blanks (n := 1) (by rintro _ ⟨⟩; exact hopens)).trans ?_
  refine run_token rfl hopens dropStaleKeys_standing ?_
  rintro _ ⟨⟩
  exact Nat.le_succ_of_le hplace

lemma not_misleadsAtStart_of_allowsPlain (h : allowsPlain (c :: cs) = true) :
    misleadsAtStart c cs = false := by
  have hmisleads := (allowsPlain_iff.1 h).2.2.2.2
  simp only [misleads, Bool.or_eq_false_iff] at hmisleads
  exact hmisleads.1.2

lemma opens_of_allowsPlain (h : allowsPlain (c :: cs) = true) : Opens c := by
  obtain ⟨hquotes, hbreak, hspace, -, -⟩ := allowsPlain_iff.1 h
  have hplain := isPlain_of_allowsSingleQuotes hquotes c List.mem_cons_self
  exact ⟨(isBlank_eq_isSpace hplain).trans (hspace c rfl), hbreak c List.mem_cons_self,
    ne_of_not_misleads (not_misleadsAtStart_of_allowsPlain h) '#' (by decide),
    ne_of_isPlain hplain (by decide)⟩

lemma writtenAs_plain (h : allowsPlain cs = true) (hne : cs ≠ []) :
    WrittenAs n (cs ++ ['\n']) cs .plain := by
  rintro fuel more place ts indents hplace ⟨k, rest, hk, rfl, halpha⟩
  refine ⟨(place.step ' ').after (cs ++ ['\n']),
    Place.column_after_append_break _ _ (by decide), ?_⟩
  cases cs with
  | nil => exact absurd rfl hne
  | cons c cs =>
    have hopens := opens_of_allowsPlain h
    have hstart : misleadsAtStart c (cs ++ '\n' :: (List.replicate k ' ' ++ rest)) = false := by
      rw [misleadsAtStart, startsBlank_append_break (by decide), ← misleadsAtStart,
        not_misleadsAtStart_of_allowsPlain h]
    let s := standing false (c :: cs ++ '\n' :: (List.replicate k ' ' ++ rest)) (place.step ' ') ts
      (some n) indents
    have hread : plainFrom s.inFlow (s.indent.elim 0 (· + 1)) s.place.column .none s.rest =
        .ok (c :: cs, rest, true) :=
      plainFrom_written h (Nat.succ_le_succ hplace) hk halpha
    have hpassed : s.rest = (c :: cs ++ '\n' :: List.replicate k ' ') ++ rest := by
      simp [s, standing]
    have hplain : s.plain = .ok (standing true rest ((place.step ' ').after
        (c :: cs ++ '\n' :: List.replicate k ' ')) (ts ++ [.scalar (c :: cs) .plain]) (some n)
        indents) := by
      rw [plain_eq (s := s) rfl _ hpassed hread]
      simp [s, standing, emit]
    rw [List.append_assoc, List.singleton_append, List.cons_append, run_value hopens hplace,
      token_eq_plain rfl (Or.inl (Nat.succ_ne_zero _)) hopens hstart]
    have hplace : (place.step ' ').after (c :: cs ++ '\n' :: List.replicate k ' ') =
        ((place.step ' ').after (c :: cs ++ ['\n'])).after (List.replicate k ' ') := by
      rw [← Place.after_append, List.append_assoc, List.singleton_append]
    rw [run_blanks fun c hc => opens_of_isAlpha (halpha c hc), ← hplace]
    exact congrArg (Except.bind · (run (fuel + 2))) hplain

/-- A scalar that is read up to the end of its line. -/
lemma writtenAs_content {quote : Char} {body text : List Char} {style : Style}
    (hopens : Opens quote) (htoken : ∀ (s : Scanner) rest, s.inFlow = false → s.place.column ≠ 0 →
      s.token quote (body ++ '\n' :: rest) = s.content (.ok (.scalar text style, '\n' :: rest))) :
    WrittenAs n (quote :: (body ++ ['\n'])) text style := by
  intro fuel more place ts indents hplace hmore
  refine ⟨((place.step ' ').after (quote :: body)).step '\n', rfl, ?_⟩
  have hcontent : (standing false (quote :: (body ++ '\n' :: more)) (place.step ' ') ts (some n)
      indents).content (.ok (.scalar text style, '\n' :: more)) =
        .ok (standing false ('\n' :: more) ((place.step ' ').after (quote :: body))
          (ts ++ [.scalar text style]) (some n) indents) := by
    show Except.ok (((standing false (quote :: (body ++ '\n' :: more)) (place.step ' ') ts (some n)
      indents).goTo ('\n' :: more)).emit _) = _
    rw [goTo_append _ (quote :: body) rfl]
    simp [standing, emit]
  rw [List.cons_append, List.append_assoc, List.singleton_append, run_value hopens hplace,
    htoken _ more rfl (Nat.succ_ne_zero _), hcontent]
  exact run_newline _ _ _ _ _ _ hmore

lemma writtenAs_singleQuoted {indent : Nat} (h : allowsSingleQuotes cs = true)
    (hnewline : '\n' ∉ cs) :
    WrittenAs n ('\'' :: (singleQuotedChars (indent + 1) false cs ++ ['\''] ++ ['\n'])) cs
      .singleQuoted := by
  refine writtenAs_content (by decide) fun s rest hflow hplace => ?_
  have hread : singleQuotedFrom false .none (singleQuotedChars (indent + 1) false cs ++
      '\'' :: '\n' :: rest) = .ok (cs, '\n' :: rest) :=
    singleQuotedFrom_written h hnewline fun hquote => absurd (Option.some.inj hquote) (by decide)
  rw [List.append_assoc, List.singleton_append]
  have hline : (s.place.column == 0) = false := beq_false_of_ne hplace
  rw [token, hline, hflow, hread]
  rfl

lemma writtenAs_doubleQuoted (cs : List Char) :
    WrittenAs n ('"' :: (cs.flatMap doubleQuotedChar ++ ['"'] ++ ['\n'])) cs .doubleQuoted := by
  refine writtenAs_content (by decide) fun s rest hflow hplace => ?_
  have hread := doubleQuotedFrom_written [] cs ('\n' :: rest)
  rw [List.append_assoc, List.singleton_append]
  have hline : (s.place.column == 0) = false := beq_false_of_ne hplace
  rw [token, hline, hflow, Gap.none, hread]
  rfl

lemma writtenAs_literal (hplain : ∀ c ∈ cs, isPlain c = true) (hne : cs ≠ []) :
    WrittenAs 0 ('|' :: (blockHints 2 cs ++ '\n' :: (blockChars 2 true cs ++
      (if cs.getLast?.any isBreak then [] else ['\n'])))) cs .literal := by
  rintro fuel more place ts indents hplace ⟨k, rest, hk, rfl, halpha⟩
  obtain rfl : k = 0 := by omega
  have hrest : ∀ c ∈ rest.head?, isBlank c = false ∧ isBreak c = false := fun c hc =>
    ⟨not_isBlank_of_isAlpha (halpha c hc), not_isBreak_of_isAlpha (halpha c hc)⟩
  have hread := blockScalar_written hplain hne hrest
  rw [List.replicate_zero, List.nil_append]
  obtain ⟨init, last, hlast, hlines⟩ := exists_blockChars_eq_append_break 2 cs
  generalize hbody : blockHints 2 cs ++ '\n' :: (blockChars 2 true cs ++
    (if cs.getLast?.any isBreak then [] else ['\n'])) = body
  have hread : blockScalar false (some 0) (body ++ rest) = .ok (cs, rest) := by
    rw [← hbody, List.append_assoc, List.cons_append, List.append_assoc, hread]
  have hcolumn : ((place.step ' ').after ('|' :: body)).column = 0 := by
    have hfront : '|' :: (blockHints 2 cs ++ '\n' :: (init ++ [last])) =
        ('|' :: (blockHints 2 cs ++ '\n' :: init)) ++ [last] := by simp
    rw [← hbody, hlines, hfront]
    exact Place.column_after_append_break _ _ hlast
  refine ⟨(place.step ' ').after ('|' :: body), hcolumn, ?_⟩
  have hblock : (standing false ('|' :: (body ++ rest)) (place.step ' ') ts (some 0) indents).block
      false (body ++ rest) = .ok (standing true rest ((place.step ' ').after ('|' :: body))
        (ts ++ [.scalar cs .literal]) (some 0) indents) := by
    rw [block]
    show (blockScalar false (some 0) (body ++ rest)).bind _ = _
    rw [hread]
    show Except.ok (({ standing false ('|' :: (body ++ rest)) (place.step ' ') ts
      (some 0) indents with keyAllowed := true }.goTo rest).emit _) = _
    rw [goTo_append _ ('|' :: body) rfl]
    simp [standing, emit]
  have htoken : (standing false ('|' :: (body ++ rest)) (place.step ' ') ts (some 0) indents).token
      '|' (body ++ rest) = (standing false ('|' :: (body ++ rest)) (place.step ' ') ts (some 0)
        indents).block false (body ++ rest) := by
    rfl
  rw [List.cons_append, run_value (by decide) hplace, htoken, hblock]
  rfl

/-- Every text is read back from the line that is written for it. -/
theorem writtenAs_writeScalarLine (cs : List Char) :
    WrittenAs 0 (writeScalarLine 2 cs) cs (chooseStyle cs) := by
  rw [writeScalarLine, writeScalar]
  obtain ⟨hstyle, hnewline, h⟩ | ⟨hstyle, hne, h⟩ | ⟨hstyle, hnewline, h⟩ | hstyle :=
    chooseStyle_cases cs <;> rw [hstyle]
  · simp only [allowsBlock, Bool.and_eq_true] at h
    have hwritten := writtenAs_literal (List.all_eq_true.1 h.1.1) (List.ne_nil_of_mem hnewline)
    simpa using hwritten
  · exact writtenAs_plain h hne
  · exact writtenAs_singleQuoted h hnewline
  · exact writtenAs_doubleQuoted cs

end Scanner

end OscRemote.Yaml
