import OscRemote.Message.ReadArgument
import OscRemote.Proofs.Message.Acceptance
import OscRemote.Proofs.Number.Integer

/-!
# Arguments that are given as text

Reading an argument and writing a message each know which types there are and which characters are
admitted.  They agree: what is read has the tag that was asked for, and nothing is wrong with it
but that a text may have a zero in it (`of_ofText?`).  Conversely, an argument that can be written
is the reading of some text, unless it is a fraction (`exists_ofText?`).

Whole numbers are read exactly: `Number.SpellsInteger` says without reading which texts spell one,
and a text is read if it does and its value is in the range of the type.
-/

namespace OscRemote

-- Powers are those that numbers come with, whatever else is in scope.
attribute [local instance (2000)] instPowNat

open Number (SpellsInteger)

namespace Argument

variable {tag : Char} {text : String} {arg : Argument}

/-! ## Reading -/

/-- A text is read under a tag if it spells an argument under it. -/
lemma read_eq_ok_iff : read tag text = .ok arg ↔ ofText? tag text = some arg := by
  unfold read
  by_cases hreadable : isReadable tag = true
  · rw [if_pos hreadable]
    cases hread : ofText? tag text with
    | none => exact iff_of_false nofun nofun
    | some value =>
      rw [Option.some.injEq]
      exact ⟨fun h => Except.ok.inj h, fun h => congrArg Except.ok h⟩
  · rw [if_neg hreadable]
    refine iff_of_false nofun fun h => ?_
    have hnone : ofText? tag text = none := by
      unfold ofText?
      split
      case h_11 => rfl
      all_goals exact absurd rfl hreadable
    cases hnone.symm.trans h

/-- A text is read as a character if it is a single one of ASCII. -/
lemma ofText?_character : ofText? 'c' text = some arg ↔
    ∃ c, text.toList = [c] ∧ c.toNat < 128 ∧ arg = .character (UInt8.ofNat c.toNat) := by
  simp only [ofText?]
  split
  case h_1 c hc =>
    rw [Option.ite_some_none_eq_some, hc]
    constructor
    · rintro ⟨hascii, rfl⟩
      exact ⟨c, rfl, hascii, rfl⟩
    · rintro ⟨c', hc', hascii, rfl⟩
      obtain rfl := List.singleton_inj.1 hc'
      exact ⟨hascii, rfl⟩
  case h_2 hmany => exact iff_of_false nofun fun ⟨c, hc, _⟩ => hmany c hc

/-- A text is read as a number of some width if it spells one that fits, and as that number. -/
lemma signed?_map_eq_some_iff {α : Type} {width : Nat} {ofInt : Int → α} {toInt : α → Int}
    {ofValue : α → Argument} {cs : List Char}
    (toInt_ofInt : ∀ {n}, -2 ^ (width - 1) ≤ n → n < 2 ^ (width - 1) → toInt (ofInt n) = n)
    (ofInt_toInt : ∀ value, ofInt (toInt value) = value) :
    ((Number.signed? width 10 cs).map fun n => ofValue (ofInt n)) = some arg ↔
      ∃ n, SpellsInteger cs n ∧ -2 ^ (width - 1) ≤ n ∧ n < 2 ^ (width - 1) ∧
        ∃ value, arg = ofValue value ∧ toInt value = n := by
  rw [Option.map_eq_some_iff]
  constructor
  · rintro ⟨n, hn, rfl⟩
    obtain ⟨hspells, hlow, hhigh⟩ := Number.signed?_eq_some_iff.1 hn
    exact ⟨n, hspells, hlow, hhigh, ofInt n, rfl, toInt_ofInt hlow hhigh⟩
  · rintro ⟨n, hspells, hlow, hhigh, value, rfl, rfl⟩
    refine ⟨toInt value, Number.signed?_eq_some_iff.2 ⟨hspells, hlow, hhigh⟩, ?_⟩
    rw [ofInt_toInt]

lemma ofText?_int32 : ofText? 'i' text = some arg ↔
    ∃ n, SpellsInteger text.toList n ∧ -2 ^ 31 ≤ n ∧ n < 2 ^ 31 ∧
      ∃ value : Int32, arg = .int32 value ∧ value.toInt = n :=
  signed?_map_eq_some_iff Int32.toInt_ofInt_of_le Int32.ofInt_toInt

lemma ofText?_int64 : ofText? 'h' text = some arg ↔
    ∃ n, SpellsInteger text.toList n ∧ -2 ^ 63 ≤ n ∧ n < 2 ^ 63 ∧
      ∃ value : Int64, arg = .int64 value ∧ value.toInt = n :=
  signed?_map_eq_some_iff Int64.toInt_ofInt_of_le Int64.ofInt_toInt

/-- What is read has the tag that was asked for, and nothing is wrong with it, unless it is a text
that has a zero in it. -/
lemma of_ofText? (h : ofText? tag text = some arg) : arg.tag = tag ∧
    (arg.fault? = none ∨ ∃ value, arg = .text value ∧ '\x00' ∈ value.toList) := by
  by_cases hcharacter : tag = 'c'
  · subst hcharacter
    obtain ⟨c, -, hascii, rfl⟩ := ofText?_character.1 h
    have hlt : UInt8.ofNat c.toNat < 128 := by
      rw [UInt8.lt_iff_toNat_lt, UInt8.toNat_ofNat', Nat.mod_eq_of_lt (by omega)]
      exact hascii
    exact ⟨rfl, Or.inl (if_pos hlt)⟩
  unfold ofText? at h
  split at h
  case h_1 | h_2 | h_3 | h_4 =>
    obtain ⟨value, -, rfl⟩ := Option.map_eq_some_iff.1 h
    exact ⟨rfl, Or.inl rfl⟩
  case h_5 =>
    obtain rfl := Option.some.inj h
    by_cases hzero : '\x00' ∈ text.toList
    · exact ⟨rfl, Or.inr ⟨text, rfl, hzero⟩⟩
    · exact ⟨rfl, Or.inl (if_neg hzero)⟩
  case h_6 => exact absurd rfl hcharacter
  case h_7 | h_8 | h_9 | h_10 =>
    obtain rfl := Option.some.inj h
    exact ⟨rfl, Or.inl rfl⟩
  case h_11 => cases h

lemma read_of_tag_notMem (h : tag ∉ ['i', 'h', 'f', 'd', 's', 'c', 'T', 'F', 'N', 'I']) :
    read tag text = .error (.unsupportedTag tag) := by
  have hreadable : ¬ isReadable tag = true := mt List.contains_iff_mem.1 h
  rw [read, if_neg hreadable]
  rfl

/-! ## What can be read -/

/-- What can be written is the reading of some text, but for fractions. -/
lemma exists_ofText? (h : arg.IsWritable)
    (htag : arg.tag ∈ ['i', 'h', 's', 'c', 'T', 'F', 'N', 'I']) :
    ∃ text, ofText? arg.tag text = some arg := by
  cases arg with
  | int32 value =>
    obtain ⟨cs, hcs⟩ := Number.exists_spellsInteger value.toInt
    refine ⟨String.ofList cs, ofText?_int32.2 ⟨value.toInt, ?_, value.le_toInt, value.toInt_lt, ?_⟩⟩
    · rwa [String.toList_ofList]
    · exact ⟨value, rfl, rfl⟩
  | int64 value =>
    obtain ⟨cs, hcs⟩ := Number.exists_spellsInteger value.toInt
    refine ⟨String.ofList cs, ofText?_int64.2 ⟨value.toInt, ?_, value.le_toInt, value.toInt_lt, ?_⟩⟩
    · rwa [String.toList_ofList]
    · exact ⟨value, rfl, rfl⟩
  | text value => exact ⟨value, rfl⟩
  | character code =>
    have hascii : code.toNat < 128 := UInt8.lt_iff_toNat_lt.1 (h.character code rfl)
    have hvalid : code.toNat.isValidChar := Or.inl (by omega)
    have hcode : (Char.ofNat code.toNat).toNat = code.toNat := by
      rw [Char.ofNat, dif_pos hvalid]
      rfl
    have hread : ofText? 'c' (String.ofList [Char.ofNat code.toNat]) = some (.character code) := by
      refine ofText?_character.2 ⟨_, String.toList_ofList, ?_⟩
      rw [hcode, UInt8.ofNat_toNat]
      exact ⟨hascii, rfl⟩
    exact ⟨_, hread⟩
  | flag value => cases value <;> exact ⟨"", rfl⟩
  | nil | infinitum => exact ⟨"", rfl⟩
  | float32 | float64 | blob | timeTag | rgba | midi => exact absurd htag (by simp [tag])

/-- At an address that is one, a message with a single argument has that argument's fault. -/
lemma encode_singleton {address : String} (hslash : address.toList.head? = some '/')
    (hzero : '\x00' ∉ address.toList) :
    encode address [arg] = unlessFault (layout address [arg]) arg.fault? := by
  rw [encode_eq, messageFault?, if_neg (not_not_intro hslash), if_neg hzero,
    List.findSome?_singleton]

/-- What is read under a tag has that tag, and a message with it has an encoding, unless it is a
text that has a zero in it.  Under a tag outside those that can be read, nothing is.

Of texts, those are read as whole numbers that are decimal digits with an optional sign and whose
value is in the range of the type, and those as characters that are a single character of ASCII.  So
whatever can be written is the reading of some text, but for fractions. -/
theorem read_exact (tag : Char) (text : String) :
    (∀ arg, read tag text = .ok arg → arg.tag = tag ∧
      ∀ address, address.toList.head? = some '/' → '\x00' ∉ address.toList →
        ((∃ value, arg = .text value ∧ '\x00' ∈ value.toList) →
          encode address [arg] = .error .embeddedNul) ∧
        ((¬ ∃ value, arg = .text value ∧ '\x00' ∈ value.toList) →
          ∃ bs, encode address [arg] = .ok bs)) ∧
    (tag ∉ ['i', 'h', 'f', 'd', 's', 'c', 'T', 'F', 'N', 'I'] →
      read tag text = .error (.unsupportedTag tag)) ∧
    (∀ arg, read 'i' text = .ok arg ↔
      ∃ n, SpellsInteger text.toList n ∧ -2 ^ 31 ≤ n ∧ n < 2 ^ 31 ∧
        ∃ value : Int32, arg = .int32 value ∧ value.toInt = n) ∧
    (∀ arg, read 'h' text = .ok arg ↔
      ∃ n, SpellsInteger text.toList n ∧ -2 ^ 63 ≤ n ∧ n < 2 ^ 63 ∧
        ∃ value : Int64, arg = .int64 value ∧ value.toInt = n) ∧
    (∀ arg, read 'c' text = .ok arg ↔
      ∃ c, text.toList = [c] ∧ c.toNat < 128 ∧ arg = .character (UInt8.ofNat c.toNat)) ∧
    ∀ arg : Argument, arg.tag ∈ ['i', 'h', 's', 'c', 'T', 'F', 'N', 'I'] →
      (∃ address bs, encode address [arg] = .ok bs) → ∃ text, read arg.tag text = .ok arg := by
  refine ⟨?_, read_of_tag_notMem, ?_, ?_, ?_, ?_⟩
  · intro arg hread
    obtain ⟨htag, hfault⟩ := of_ofText? (read_eq_ok_iff.1 hread)
    refine ⟨htag, fun address hslash hzero => ?_⟩
    rw [encode_singleton hslash hzero]
    constructor
    · rintro ⟨value, rfl, hmem⟩
      have hembedded : (Argument.text value).fault? = some .embeddedNul := if_pos hmem
      rw [hembedded]
      rfl
    · intro htext
      rw [hfault.resolve_right htext]
      exact ⟨_, rfl⟩
  · exact fun arg => read_eq_ok_iff.trans ofText?_int32
  · exact fun arg => read_eq_ok_iff.trans ofText?_int64
  · exact fun arg => read_eq_ok_iff.trans ofText?_character
  · rintro arg htag ⟨address, bs, hbs⟩
    rw [encode_eq] at hbs
    obtain ⟨-, -, hwritable⟩ :=
      (messageFault?_eq_none_iff address [arg]).1 (unlessFault_eq_ok_iff.1 hbs).1
    obtain ⟨text, htext⟩ := exists_ofText? (hwritable arg (List.mem_singleton_self arg)) htag
    exact ⟨text, read_eq_ok_iff.2 htext⟩

/-- The least number of 32 bits, with zeros in front of it, and the first one that is too great. -/
theorem read_exact_least :
    read 'i' "-0002147483648" = .ok (.int32 Int32.minValue) ∧
    (∃ bs, encode "/a" [.int32 Int32.minValue] = .ok bs) ∧
    read 'i' "2147483648" = .error (.badValue 'i' "2147483648") := by
  obtain ⟨hencodes, -, hnumber, -, -, -⟩ := read_exact 'i' "-0002147483648"
  have htext : "-0002147483648".toList =
      ['-', '0', '0', '0', '2', '1', '4', '7', '4', '8', '3', '6', '4', '8'] := rfl
  have hspells : SpellsInteger "-0002147483648".toList (-2147483648) := by
    rw [htext]
    exact .minus (n := 2147483648) ⟨by decide, by simp, by decide⟩
  have hread : read 'i' "-0002147483648" = .ok (.int32 Int32.minValue) :=
    (hnumber _).2 ⟨-2147483648, hspells, by decide, by decide, Int32.minValue, rfl, by decide⟩
  refine ⟨hread, ?_, by decide⟩
  refine (((hencodes _ hread).2 "/a" (by decide) (by decide)).2 ?_)
  rintro ⟨value, hvalue, -⟩
  cases hvalue

end Argument

end OscRemote
