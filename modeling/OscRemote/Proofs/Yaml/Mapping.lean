import OscRemote.Proofs.Yaml.Scan
import OscRemote.Yaml.Node.OfTokens

/-!
# Block mappings that are written are read back

A mapping is written entry by entry, each on a line of its own at the column of the mapping, and a
value that goes over several lines is set in further.  The scanner turns it into the tokens of its
entries in brackets (`run_mapping`), and from these the grammar makes the mapping again
(`node_blockMapping`, `blockMapping_entries`).  The main statement, `Layout.read_text`, is about
documents of the shape that a configuration has: scalars, and behind them one mapping of scalars.
-/

namespace OscRemote.Yaml

/-- An entry of a block mapping with a scalar: its name, what is written behind the sign for the
value, up to the end of the line, and the text that this stands for. -/
structure Entry where
  name : List Char
  written : List Char
  text : List Char
  style : Style

namespace Entry

/-- An entry as it is written in a mapping whose keys begin at column `n`. -/
def line (n : Nat) (e : Entry) : List Char :=
  List.replicate n ' ' ++ (e.name ++ ':' :: ' ' :: e.written)

/-- The tokens of an entry. -/
def tokens (e : Entry) : List Token :=
  [.key, .scalar e.name .plain, .value, .scalar e.text e.style]

/-- The nodes of an entry. -/
def nodes (e : Entry) : Node × Node :=
  (.scalar none .plain e.name, .scalar none e.style e.text)

/-- Whether an entry is read back in a mapping whose keys begin at column `n`. -/
structure Fits (n : Nat) (e : Entry) : Prop where
  isName : Scanner.IsName e.name
  writtenAs : Scanner.WrittenAs n e.written e.text e.style
  isPlain : ∀ c ∈ e.written, isPlain c = true

end Entry

variable {n : Nat} {rest more name : List Char} {e : Entry} {es inner : List Entry}

/-! ## Tokens -/

namespace Scanner

variable {place : Place} {ts : List Token} {indent : Option Nat} {indents : List (Option Nat)}
  {fuel : Nat}

/-- A name begins with a letter. -/
lemma isAlpha_of_isName (h : IsName name) (rest : List Char) :
    ∀ c ∈ (name ++ rest).head?, c.isAlpha = true := by
  obtain ⟨c, hc, halpha⟩ := h.1
  rw [List.head?_append, hc]
  rintro _ ⟨⟩
  exact halpha

lemma lineBegins_of_isName (h : IsName name) (n : Nat) (rest : List Char) :
    LineBegins (n + 1) (List.replicate n ' ' ++ (name ++ rest)) :=
  ⟨n, name ++ rest, Nat.lt_succ_self n, rfl, isAlpha_of_isName h rest⟩

/-- Two steps go over a key at the start of a line. -/
lemma run_key (fuel : Nat) (ts : List Token) (indents : List (Option Nat)) (hname : IsName name)
    (rest : List Char) (hrest : startsBlank rest = true) (hplace : place.column = 0)
    (hindent : Admits n indent) : ∃ p : Place, n ≤ p.column ∧
      run (fuel + 2)
          (standing true (List.replicate n ' ' ++ (name ++ ':' :: rest)) place ts indent indents) =
        run fuel (standing false rest p
          (ts ++ opening n indent ++ [.key, .scalar name .plain, .value]) (some n)
          (around n indent indents)) := by
  have hcolumn : (place.after (List.replicate n ' ')).column = n := by
    rw [Place.column_after_blanks, hplace, Nat.zero_add]
  refine ⟨((place.after (List.replicate n ' ')).after name).step ':', ?_, ?_⟩
  · have hname := (Place.after_of_not_isBreak (place.after (List.replicate n ' '))
      fun c hc => (opens_of_mem_name hname c hc).2.1).1
    show n ≤ _ + 1
    omega
  · rw [run_blanks fun c hc => opens_of_isAlpha (isAlpha_of_isName hname _ c hc),
      run_name hname hrest (by rw [hcolumn]; exact hindent.le),
      run_colon hname hrest (by rwa [hcolumn]), hcolumn]

/-- The steps over an entry of a mapping, which may be the first. -/
lemma run_entry (fuel : Nat) (ts : List Token) (indents : List (Option Nat)) (he : e.Fits n)
    (hplace : place.column = 0) (hindent : Admits n indent)
    (hmore : LineBegins (n + 1) more) : ∃ p : Place, p.column = 0 ∧
      run (fuel + 5) (standing true (e.line n ++ more) place ts indent indents) =
        run (fuel + 2) (standing true more p (ts ++ opening n indent ++ e.tokens) (some n)
          (around n indent indents)) := by
  obtain ⟨p, hp, hkey⟩ := run_key (fuel + 3) ts indents he.isName (' ' :: (e.written ++ more)) rfl
    hplace hindent
  obtain ⟨q, hq, hvalue⟩ := he.writtenAs fuel more p
    (ts ++ opening n indent ++ [.key, .scalar e.name .plain, .value]) (around n indent indents) hp
    hmore
  refine ⟨q, hq, ?_⟩
  rw [Entry.line, Entry.tokens]
  simp only [List.append_assoc, List.cons_append, List.nil_append] at hkey hvalue ⊢
  rw [hkey, hvalue]

lemma lineBegins_flatMap (hes : ∀ e ∈ es, e.Fits n) (hmore : LineBegins (n + 1) more) :
    LineBegins (n + 1) (es.flatMap (Entry.line n) ++ more) := by
  cases es with
  | nil => exact hmore
  | cons e es =>
    rw [List.flatMap_cons, Entry.line, List.append_assoc, List.append_assoc, List.append_assoc]
    exact lineBegins_of_isName (hes e List.mem_cons_self).isName n _

/-- The steps over a mapping, from its first entry, by induction on the entries: behind each the
next is one of a mapping that has begun. -/
lemma run_mapping (fuel : Nat) (ts : List Token) (indents : List (Option Nat)) (hne : es ≠ [])
    (hes : ∀ e ∈ es, e.Fits n) (hplace : place.column = 0)
    (hindent : Admits n indent) (hmore : LineBegins (n + 1) more) :
    ∃ p : Place, p.column = 0 ∧
      run (fuel + 2 + 3 * es.length)
          (standing true (es.flatMap (Entry.line n) ++ more) place ts indent indents) =
        run (fuel + 2) (standing true more p (ts ++ opening n indent ++ es.flatMap Entry.tokens)
          (some n) (around n indent indents)) := by
  induction es generalizing place ts indent indents with
  | nil => exact absurd rfl hne
  | cons e es ih =>
    obtain ⟨he, hes⟩ := List.forall_mem_cons.1 hes
    obtain ⟨p, hp, hentry⟩ := run_entry (fuel + 3 * es.length) ts indents he hplace hindent
      (lineBegins_flatMap hes hmore)
    rw [List.flatMap_cons, List.flatMap_cons, List.append_assoc, List.length_cons,
      show fuel + 2 + 3 * (es.length + 1) = fuel + 3 * es.length + 5 by omega, hentry,
      show fuel + 3 * es.length + 2 = fuel + 2 + 3 * es.length by omega]
    by_cases hlast : es = []
    · subst hlast
      exact ⟨p, hp, by simp⟩
    · have hopening : opening n (some n) = [] := by simp [opening, isInside]
      have haround : around n (some n) (around n indent indents) = around n indent indents := by
        simp [around, isInside]
      obtain ⟨q, hq, hentries⟩ := ih (ts ++ opening n indent ++ e.tokens)
        (around n indent indents) hlast hes hp (Or.inl rfl)
      rw [hopening, haround, List.append_nil] at hentries
      exact ⟨q, hq, by rw [hentries, List.append_assoc (ts ++ _)]⟩

/-- At the end of a document all mappings end. -/
lemma run_end (hn : 0 < n) (hplace : place.column = 0) :
    run (fuel + 1) (standing true [] place ts (some n) [some 0, none]) =
      .ok (ts ++ [.blockEnd, .blockEnd]) := by
  have hstay : (standing true [] place ts (some n) [some 0, none]).toToken (fuel + 1) =
      standing true [] place ts (some n) [some 0, none] :=
    toToken_of_opens fuel (by rintro _ ⟨⟩)
  rw [run, hstay, dropStaleKeys_standing]
  simp only [bind, Except.bind]
  simp [closeBlocks, closeBlocks.go, inFlow, standing, hplace, hn, finish, dropKey, Except.map]

end Scanner

/-! ## Documents -/

/-- A document of scalars and, behind them, a mapping of scalars that is set in by `n`. -/
structure Layout (n : Nat) where
  entries : List Entry
  name : List Char
  inner : List Entry

namespace Layout

variable (l : Layout n)

/-- A document as it is written. -/
def text : List Char :=
  l.entries.flatMap (Entry.line 0) ++ (l.name ++ ':' :: '\n' :: l.inner.flatMap (Entry.line n))

/-- The tokens of a document. -/
def tokens : List Token :=
  .blockMappingStart :: (l.entries.flatMap Entry.tokens ++
    .key :: .scalar l.name .plain :: .value :: .blockMappingStart ::
      (l.inner.flatMap Entry.tokens ++ [.blockEnd, .blockEnd]))

/-- The root of a document. -/
def root : Node :=
  .mapping none (l.entries.map Entry.nodes ++
    [(.scalar none .plain l.name, .mapping none (l.inner.map Entry.nodes))])

/-- Whether a document is read back. -/
structure Fits : Prop where
  entries_ne_nil : l.entries ≠ []
  inner_ne_nil : l.inner ≠ []
  entries : ∀ e ∈ l.entries, e.Fits 0
  isName : Scanner.IsName l.name
  inner : ∀ e ∈ l.inner, e.Fits n

variable {l}

open Scanner in
/-- The scanner goes over the scalars, the key behind them and the mapping that it holds. -/
lemma run_text (h : l.Fits) (hn : 0 < n) (fuel : Nat) :
    Scanner.run (fuel + 4 + 3 * l.inner.length + 3 * l.entries.length) { rest := l.text } =
      .ok l.tokens := by
  have hend : LineBegins (n + 1) [] := ⟨0, [], Nat.succ_pos n, rfl, by rintro _ ⟨⟩⟩
  have hinner : LineBegins (n + 1) (l.inner.flatMap (Entry.line n)) := by
    simpa using lineBegins_flatMap h.inner hend
  have hopening : opening n (some 0) = [.blockMappingStart] := by simp [opening, isInside, hn]
  have haround : around n (some 0) [none] = [some 0, none] := by simp [around, isInside, hn]
  have hfirst : opening 0 none = [.blockMappingStart] ∧ around 0 none [] = [none] := ⟨rfl, rfl⟩
  have hsecond : opening 0 (some 0) = [] ∧ around 0 (some 0) [none] = [none] := ⟨rfl, rfl⟩
  have hstart : ({} : Place).column = 0 := rfl
  -- the place at which each part ends is known only in that a line begins there
  let lines := l.inner.flatMap (Entry.line n)
  let before := .blockMappingStart :: l.entries.flatMap Entry.tokens
  let after := before ++ [.key, .scalar l.name .plain, .value]
  obtain ⟨p, hp, hentries⟩ := run_mapping (fuel + 2 + 3 * l.inner.length) [] [] h.entries_ne_nil
    h.entries hstart (Or.inr rfl : Admits 0 none)
    (lineBegins_of_isName h.isName 0 (':' :: '\n' :: lines))
  obtain ⟨q, -, hkey⟩ := run_key (fuel + 2 + 3 * l.inner.length) before [none] h.isName
    ('\n' :: lines) rfl hp (Or.inl rfl : Admits 0 (some 0))
  have hline : (q.step '\n').column = 0 := rfl
  obtain ⟨r, hr, hmapping⟩ := run_mapping fuel after [none] h.inner_ne_nil h.inner hline
    (Or.inr (decide_eq_true hn) : Admits n (some 0)) hend
  rw [hfirst.1, hfirst.2, List.nil_append, List.replicate_zero, List.nil_append] at hentries
  rw [hsecond.1, hsecond.2, List.append_nil, List.replicate_zero, List.nil_append] at hkey
  rw [List.append_nil, hopening, haround] at hmapping
  calc Scanner.run (fuel + 4 + 3 * l.inner.length + 3 * l.entries.length) { rest := l.text }
    _ = Scanner.run (fuel + 2 + 3 * l.inner.length + 2 + 3 * l.entries.length)
          (standing true l.text {} [] none []) := by
        rw [show fuel + 4 + 3 * l.inner.length = fuel + 2 + 3 * l.inner.length + 2 by omega]
        rfl
    _ = Scanner.run (fuel + 2 + 3 * l.inner.length + 2)
          (standing true (l.name ++ ':' :: '\n' :: lines) p before (some 0) [none]) := by
        rw [text, hentries]
        rfl
    _ = Scanner.run (fuel + 2 + 3 * l.inner.length)
          (standing false ('\n' :: lines) q after (some 0) [none]) := hkey
    _ = Scanner.run (fuel + 2 + 3 * l.inner.length)
          (standing true lines (q.step '\n') after (some 0) [none]) := by
        rw [show fuel + 2 + 3 * l.inner.length = fuel + 3 * l.inner.length + 2 by omega]
        exact run_newline _ _ _ _ _ _ hinner
    _ = Scanner.run (fuel + 2) (standing true [] r
          (after ++ [.blockMappingStart] ++ l.inner.flatMap Entry.tokens) (some n)
          [some 0, none]) := by
        rw [hmapping]
    _ = .ok l.tokens := by
        rw [run_end hn hr, tokens]
        simp [after, before]

/-- The length of a document leaves enough steps. -/
lemma length_text_ge (h : l.Fits) :
    3 + 3 * l.inner.length + 3 * l.entries.length ≤ l.text.length := by
  have hlines {k : Nat} {es : List Entry} (hes : ∀ e ∈ es, e.Fits k) :
      3 * es.length ≤ (es.flatMap (Entry.line k)).length := by
    induction es with
    | nil => exact Nat.le_refl 0
    | cons e es ih =>
      obtain ⟨he, hes⟩ := List.forall_mem_cons.1 hes
      obtain ⟨c, hc, -⟩ := he.isName.1
      have hname : 0 < e.name.length := List.length_pos_of_mem (List.mem_of_mem_head? hc)
      have hmore := ih hes
      rw [List.flatMap_cons, List.length_append, Entry.line]
      simp only [List.length_append, List.length_cons, List.length_replicate]
      omega
  obtain ⟨c, hc, -⟩ := h.isName.1
  have hname : 0 < l.name.length := List.length_pos_of_mem (List.mem_of_mem_head? hc)
  have hentries := hlines h.entries
  have hinner := hlines h.inner
  simp only [text, List.length_append, List.length_cons]
  omega

lemma isPlain_of_isName {name : List Char} (h : Scanner.IsName name) :
    ∀ c ∈ name, isPlain c = true := by
  intro c hc
  obtain halpha | rfl := h.2.1 c hc
  · exact isPlain_of_isWordChar (isWordChar_of_isAlpha halpha)
  · decide

/-- A document is made of characters that stand for themselves. -/
lemma isPlain_text (h : l.Fits) : ∀ c ∈ l.text, isPlain c = true := by
  have hlines {k : Nat} {es : List Entry} (hes : ∀ e ∈ es, e.Fits k) :
      ∀ c ∈ es.flatMap (Entry.line k), isPlain c = true := by
    intro c hc
    obtain ⟨e, he, hc⟩ := List.mem_flatMap.1 hc
    simp only [Entry.line, List.mem_append, List.mem_cons] at hc
    obtain hc | hc | rfl | rfl | hc := hc
    · exact isPlain_of_mem_replicate hc
    · exact isPlain_of_isName (hes e he).isName c hc
    · decide
    · decide
    · exact (hes e he).isPlain c hc
  intro c hc
  simp only [text, List.mem_append, List.mem_cons] at hc
  obtain hc | hc | rfl | rfl | hc := hc
  · exact hlines h.entries c hc
  · exact isPlain_of_isName h.isName c hc
  · decide
  · decide
  · exact hlines h.inner c hc

end Layout

lemma isAllowed_of_isPlain {c : Char} (h : isPlain c = true) : isAllowed c = true := by
  simp only [isPlain, isAllowed, Bool.or_eq_true, Bool.and_eq_true, beq_iff_eq,
    decide_eq_true_eq] at h ⊢
  obtain (((h | h) | h) | ⟨h, -⟩) | h := h <;> omega

/-- Characters that are written as themselves stay as they are. -/
lemma oneLineEnd_of_isPlain {cs : List Char} (h : ∀ c ∈ cs, isPlain c = true) :
    oneLineEnd cs = cs := by
  induction cs with
  | nil => rfl
  | cons c cs ih =>
    obtain ⟨hc, hcs⟩ := List.forall_mem_cons.1 h
    have hreturn : c ≠ '\r' := ne_of_isPlain hc (by decide)
    have hnext : c ≠ '\u0085' := ne_of_isPlain hc (by decide)
    unfold oneLineEnd
    split
    · next heq => cases heq
    · next heq => exact absurd (List.cons.inj heq).1 hreturn
    · next heq =>
      obtain ⟨rfl, rfl⟩ := List.cons.inj heq
      rw [if_neg (by simp [hreturn, hnext]), ih hcs]

lemma tokens_of_isPlain {cs : List Char} (h : ∀ c ∈ cs, isPlain c = true) :
    tokens cs = Scanner.run (cs.length + 1) { rest := cs } := by
  have hallowed : cs.all isAllowed = true :=
    List.all_eq_true.2 fun c hc => isAllowed_of_isPlain (h c hc)
  have hmark : ¬ cs.head? = some byteOrderMark := fun hhead =>
    ne_of_isPlain (h _ (List.mem_of_mem_head? hhead)) (by decide) rfl
  rw [tokens, if_pos hallowed, if_neg hmark, oneLineEnd_of_isPlain h]

/-! ## Nodes -/

section

variable {names : Names} {ts : List Token} {fuel : Nat}

lemma node_scalar (text : List Char) (style : Style) :
    node (fuel + 1) true true names (.scalar text style :: ts) =
      .ok (.scalar none style text, ts, names) :=
  rfl

lemma node_blockMapping {entries : List (Node × Node)} {after : List Token}
    (h : blockMapping fuel names ts = .ok (entries, after, names)) (bareEntries : Bool) :
    node (fuel + 1) true bareEntries names (.blockMappingStart :: ts) =
      .ok (.mapping none entries, after, names) := by
  have hnode : node (fuel + 1) true bareEntries names (.blockMappingStart :: ts) =
      (blockMapping fuel names ts).bind fun read => .ok (.mapping none read.1, read.2) := by
    rfl
  rw [hnode, h]
  rfl

/-- An entry whose value is read, in front of entries that are read. -/
lemma blockMapping_key (name : List Char) (valueTokens : List Token) {value : Node}
    {after rest : List Token} {entries : List (Node × Node)}
    (hstarts : endsBlockPart (valueTokens ++ after) = false)
    (hvalue : node (fuel + 1) true true names (valueTokens ++ after) = .ok (value, after, names))
    (h : blockMapping (fuel + 1) names after = .ok (entries, rest, names)) :
    blockMapping (fuel + 2) names
        (.key :: .scalar name .plain :: .value :: (valueTokens ++ after)) =
      .ok ((.scalar none .plain name, value) :: entries, rest, names) := by
  have hkey : endsBlockPart (.scalar name .plain :: .value :: (valueTokens ++ after)) = false := rfl
  rw [blockMapping]
  simp [hkey, node_scalar, hstarts, hvalue, h, bind, Except.bind, pure, Except.pure]

lemma blockMapping_entries (es : List Entry) {after rest : List Token} {nodes : List (Node × Node)}
    (h : blockMapping (fuel + 1) names after = .ok (nodes, rest, names)) :
    blockMapping (fuel + 1 + es.length) names (es.flatMap Entry.tokens ++ after) =
      .ok (es.map Entry.nodes ++ nodes, rest, names) := by
  induction es with
  | nil => exact h
  | cons e es ih =>
    rw [List.length_cons, List.flatMap_cons, List.append_assoc,
      show fuel + 1 + (es.length + 1) = fuel + es.length + 2 by omega]
    refine blockMapping_key e.name [.scalar e.text e.style] rfl (node_scalar _ _) ?_
    rw [show fuel + es.length + 1 = fuel + 1 + es.length by omega]
    exact ih

end

namespace Layout

variable {l : Layout n}

/-- The tokens of a document are read as its root. -/
lemma node_tokens (l : Layout n) (names : Names) (fuel : Nat) :
    node (fuel + 4 + l.inner.length + l.entries.length) true false names l.tokens =
      .ok (l.root, [], names) := by
  have hend : blockMapping (fuel + 1) names [.blockEnd, .blockEnd] =
      .ok ([], [.blockEnd], names) := rfl
  have hinner := node_blockMapping (blockMapping_entries l.inner hend) true
  rw [List.append_nil] at hinner
  have hlast := blockMapping_key l.name
    (.blockMappingStart :: (l.inner.flatMap Entry.tokens ++ [.blockEnd])) rfl
    (by simpa using hinner)
    (show blockMapping (fuel + 1 + l.inner.length + 1) names [.blockEnd] = .ok ([], [], names)
      from rfl)
  have hentries := node_blockMapping (blockMapping_entries l.entries hlast) false
  rw [show fuel + 4 + l.inner.length + l.entries.length =
    fuel + 1 + l.inner.length + 2 + l.entries.length + 1 by omega]
  simpa [tokens, root] using hentries

lemma rootNode_tokens (l : Layout n) (names : Names) :
    rootNode names l.tokens = .ok (l.root, [], names) := by
  have hlength : l.inner.length + l.entries.length ≤ l.tokens.length := by
    have hlines (es : List Entry) : es.length ≤ (es.flatMap Entry.tokens).length := by
      rw [List.length_flatMap]
      simp [Entry.tokens]
      omega
    have hentries := hlines l.entries
    have hinner := hlines l.inner
    simp only [tokens, List.length_cons, List.length_append]
    omega
  obtain ⟨fuel, hfuel⟩ := Nat.exists_eq_add_of_le
    (show 4 + l.inner.length + l.entries.length ≤ 3 * l.tokens.length + 3 by
      have hpos : 0 < l.tokens.length := by simp [tokens]
      omega)
  rw [rootNode, hfuel, ← node_tokens l names fuel]
  congr 1
  omega

/-- A document without directives or marks is its root. -/
lemma ofTokens_blockMapping {ts : List Token} {root : Node} {names : Names}
    (h : rootNode { handles := Names.standardHandles } (.blockMappingStart :: ts) =
      .ok (root, [], names)) :
    Document.ofTokens (.blockMappingStart :: ts) =
      .ok { root := some root, marked := names.marked } := by
  simp [Document.ofTokens, directives, h, bind, Except.bind, pure, Except.pure]

/-- A document that is written is read back. -/
theorem read_text (h : l.Fits) (hn : 0 < n) :
    Document.read (String.ofList l.text) = .ok { root := some l.root } := by
  obtain ⟨fuel, hfuel⟩ := Nat.exists_eq_add_of_le (length_text_ge h)
  have htokens : Yaml.tokens l.text = .ok l.tokens := by
    rw [tokens_of_isPlain (isPlain_text h), hfuel, ← run_text h hn fuel]
    congr 1
    omega
  rw [Document.read, String.toList_ofList, htokens]
  exact ofTokens_blockMapping (rootNode_tokens l _)

end Layout

end OscRemote.Yaml
