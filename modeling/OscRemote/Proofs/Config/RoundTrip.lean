import Mathlib
import OscRemote.Config.Load
import OscRemote.Proofs.Config.Fields
import OscRemote.Proofs.Yaml.Mapping

/-!
# Configurations that are saved are read back

A configuration is written as a document of scalars with one mapping behind them (`Config.layout`).
Its texts may be any; each is written in a style that it fits, and its numbers and words are plain.
So the document is read back, and every field from it (`saved_config_is_read_back`).
-/

namespace OscRemote

open Yaml (Document Entry Layout Node)

-- Powers are those that numbers come with, whatever else is in scope.
attribute [local instance (2000)] instPowNat

-- To decide about the characters of a text, only these are tried, and not all that there are.
attribute [local instance (2000)] List.decidableBAll

/-! ## Documents -/

/-- The entry of a field that holds a text. -/
def textEntry (name text : String) : Entry :=
  ⟨name.toList, Yaml.writeScalarLine 2 text.toList, text.toList, Yaml.chooseStyle text.toList⟩

/-- The entry of a field that holds a word or a number. -/
def wordEntry (name word : String) : Entry :=
  ⟨name.toList, word.toList ++ ['\n'], word.toList, .plain⟩

/-- The document of a configuration. -/
def Config.layout (c : Config) : Layout 2 where
  entries :=
    [textEntry "base_address" c.baseAddress,
      textEntry "host" c.host,
      wordEntry "stream_port" (toString c.streamPort.toNat),
      wordEntry "datagram_port" (toString c.datagramPort.toNat),
      wordEntry "core_transport" c.coreTransport.word,
      wordEntry "connect_timeout_ms" (toString c.connectTimeout.toNat)]
  name := "on_close".toList
  inner :=
    [wordEntry "unload" (if c.onClose.unload then "true" else "false"),
      wordEntry "policy" c.onClose.policy.word,
      wordEntry "drain_timeout_ms" (toString c.onClose.drainTimeout.toNat)]

lemma Config.toText_eq (c : Config) : c.toText = String.ofList c.layout.text := by
  simp [Config.toText, Config.layout, Layout.text, Entry.line, textEntry, wordEntry, wordLine,
    fieldLine, CloseSettings.lines]

lemma Config.root_layout (c : Config) : c.layout.root = Document.ofPairs
    [("base_address", .scalar none (Yaml.chooseStyle c.baseAddress.toList) c.baseAddress.toList),
      ("host", .scalar none (Yaml.chooseStyle c.host.toList) c.host.toList),
      ("stream_port", .scalar none .plain (toString c.streamPort.toNat).toList),
      ("datagram_port", .scalar none .plain (toString c.datagramPort.toNat).toList),
      ("core_transport", .scalar none .plain c.coreTransport.word.toList),
      ("connect_timeout_ms", .scalar none .plain (toString c.connectTimeout.toNat).toList),
      ("on_close", Document.ofPairs
        [("unload", .scalar none .plain (if c.onClose.unload then "true" else "false").toList),
          ("policy", .scalar none .plain c.onClose.policy.word.toList),
          ("drain_timeout_ms",
            .scalar none .plain (toString c.onClose.drainTimeout.toNat).toList)])] :=
  rfl

/-! ## Words and numbers -/

/-- What is written as a word: one or more letters, digits and underscores. -/
def IsWord (word : String) : Prop :=
  word.toList ≠ [] ∧ ∀ c ∈ word.toList, Yaml.IsWordChar c

instance (word : String) : Decidable (IsWord word) := inferInstanceAs (Decidable (_ ∧ _))

lemma toList_toString (n : Nat) : (toString n).toList = Nat.toDigits 10 n :=
  Nat.toList_repr

lemma isWord_toString (n : Nat) : IsWord (toString n) := by
  rw [IsWord, toList_toString]
  exact ⟨Nat.toDigits_ne_nil, Yaml.isWordChar_of_digitsAfter? (Number.digitsAfter?_toDigits_ten n)⟩

lemma isWord_transport (kind : TransportKind) : IsWord kind.word := by
  cases kind <;> decide

lemma isWord_policy (policy : ClosePolicy) : IsWord policy.word := by
  cases policy <;> decide

lemma isWord_flag (b : Bool) : IsWord (if b then "true" else "false") := by
  cases b <;> decide

/-! ## Writing -/

lemma fits_textEntry {name : String} (hname : Yaml.Scanner.IsName name.toList) (text : String) :
    (textEntry name text).Fits 0 where
  isName := hname
  writtenAs := Yaml.Scanner.writtenAs_writeScalarLine text.toList
  isPlain _ hc := Yaml.isPlain_of_mem_writeScalarLine hc

lemma fits_wordEntry {n : Nat} {name word : String} (hname : Yaml.Scanner.IsName name.toList)
    (hword : IsWord word) : (wordEntry name word).Fits n where
  isName := hname
  writtenAs := Yaml.Scanner.writtenAs_plain (Yaml.allowsPlain_of_isWordChar hword.2) hword.1
  isPlain c hc := by
    obtain hc | hc := List.mem_append.1 hc
    · exact Yaml.isPlain_of_isWordChar (hword.2 c hc)
    · rw [List.mem_singleton.1 hc]
      decide

lemma Config.fits_layout (c : Config) : c.layout.Fits where
  entries_ne_nil := List.cons_ne_nil _ _
  inner_ne_nil := List.cons_ne_nil _ _
  entries := by
    simp only [layout, List.forall_mem_cons]
    exact ⟨fits_textEntry (by decide) _, fits_textEntry (by decide) _,
      fits_wordEntry (by decide) (isWord_toString _),
      fits_wordEntry (by decide) (isWord_toString _),
      fits_wordEntry (by decide) (isWord_transport _),
      fits_wordEntry (by decide) (isWord_toString _), List.forall_mem_nil _⟩
  isName := (by decide : Yaml.Scanner.IsName "on_close".toList)
  inner := by
    simp only [layout, List.forall_mem_cons]
    exact ⟨fits_wordEntry (by decide) (isWord_flag _),
      fits_wordEntry (by decide) (isWord_policy _),
      fits_wordEntry (by decide) (isWord_toString _), List.forall_mem_nil _⟩

/-! ## Reading -/

variable {d : Document}

lemma number?_toDigits {width n : Nat} (hwidth : width ≤ 64) (h : n < 2 ^ width) :
    d.number? width (.scalar none .plain (Nat.toDigits 10 n)) = some n := by
  have hplain : d.plain? "tag:yaml.org,2002:int" (.scalar none .plain (Nat.toDigits 10 n)) =
      some (Nat.toDigits 10 n) := rfl
  have hbound : n < 2 ^ 64 := Nat.lt_of_lt_of_le h (Nat.pow_le_pow_right (by decide) hwidth)
  rw [Document.number?, hplain, Option.bind_some, Yaml.unsigned?_toDigits hbound, Option.filter_some,
    if_pos (decide_eq_true h)]

lemma flag?_word (b : Bool) :
    d.flag? (.scalar none .plain (if b then "true" else "false").toList) = some b := by
  cases b <;> rfl

lemma text?_scalar (style : Yaml.Style) (text : String) :
    d.text? (.scalar none style text.toList) = some text :=
  congrArg some String.ofList_toList

lemma word?_scalar (style : Yaml.Style) (text : String) :
    d.word? (.scalar none style text.toList) = some text :=
  @text?_scalar d style text

@[simp]
lemma TransportKind.ofWord?_word (kind : TransportKind) : ofWord? kind.word = some kind := by
  cases kind <;> rfl

@[simp]
lemma ClosePolicy.ofWord?_word (policy : ClosePolicy) : ofWord? policy.word = some policy := by
  cases policy <;> rfl

/-- How a client closes is read from what its fields are written as. -/
lemma CloseSettings.ofNode_ofPairs (s : CloseSettings) : CloseSettings.ofNode d (Document.ofPairs
    [("unload", .scalar none .plain (if s.unload then "true" else "false").toList),
      ("policy", .scalar none .plain s.policy.word.toList),
      ("drain_timeout_ms", .scalar none .plain (Nat.toDigits 10 s.drainTimeout.toNat))]) =
    .ok s := by
  have hlimit := number?_toDigits (d := d) (Nat.le_refl 64) s.drainTimeout.toNat_lt
  unfold CloseSettings.ofNode
  rw [Document.fields_ofPairs (by simp) (by simp)]
  simp [optionalField, List.lookup_cons, Misreading.require, flag?_word, word?_scalar,
    hlimit, bind, Except.bind, pure, Except.pure]

lemma Config.ofNode_root (c : Config) : Config.ofNode d c.layout.root = .ok c := by
  have hport (port : UInt16) := number?_toDigits (d := d) (by decide : 16 ≤ 64) port.toNat_lt
  have hlimit := number?_toDigits (d := d) (Nat.le_refl 64) c.connectTimeout.toNat_lt
  rw [root_layout]
  unfold Config.ofNode
  rw [Document.fields_ofPairs (by simp) (by simp)]
  simp [optionalField, List.lookup_cons, Misreading.require, text?_scalar, word?_scalar, hport,
    hlimit, CloseSettings.ofNode_ofPairs, bind, Except.bind, pure, Except.pure]

lemma Config.ofText_toText (c : Config) : Config.ofText c.toText = .ok c := by
  rw [ofText, toText_eq, Layout.read_text c.fits_layout (by decide)]
  exact ofNode_root c

/-- What is saved is read back, from any file that holds it and from the one in which it was saved;
and a directory that takes the file is all that saving needs. -/
theorem saved_config_is_read_back (c : Config) :
    Config.ofText c.toText = .ok c ∧
      (∀ files path, files path = .ok (octetsOf c.toText) → Config.ofFile files path = .ok c) ∧
      (∀ folder path after, folder.write path (octetsOf c.toText) = .ok after →
        c.save folder path = .ok after) ∧
      ∀ folder path after, c.save folder path = .ok after →
        Config.ofFile after.read path = .ok c := by
  have hfile : ∀ files path, files path = .ok (octetsOf c.toText) →
      Config.ofFile files path = .ok c := by
    intro files path hcontent
    have htext : Files.text files path = .ok c.toText := by
      simp [Files.text, hcontent, bind, Except.bind, pure, Except.pure]
    rw [Config.ofFile, htext]
    simp [c.ofText_toText, pure, Except.pure]
  have hsave (folder : Folder) (path : String) (after : Folder) :
      c.save folder path = .ok after ↔ folder.write path (octetsOf c.toText) = .ok after := by
    unfold Config.save
    cases folder.write path (octetsOf c.toText) with
    | error cause => exact iff_of_false (by rintro ⟨⟩) (by rintro ⟨⟩)
    | ok written => simp [pure, Except.pure]
  refine ⟨c.ofText_toText, hfile, fun folder path after => (hsave folder path after).2, ?_⟩
  intro folder path after h
  exact hfile _ path (Folder.read_of_write ((hsave folder path after).1 h))

/-- A configuration with texts that only a block and double quotes can carry. -/
def awkwardConfig : Config where
  baseAddress := "\u2029a\n b\n\n"
  host := "'\u2028 \x07\x22"
  streamPort := 65535
  coreTransport := .datagram
  connectTimeout := 18446744073709551615
  onClose := { unload := true, policy := .closeImmediately }

/-- The configuration is read from any file that holds what was saved, and from the file `c` of a
directory that was empty. -/
theorem saved_config_is_read_back_awkward :
    Yaml.chooseStyle awkwardConfig.baseAddress.toList = .literal ∧
    Yaml.chooseStyle awkwardConfig.host.toList = .doubleQuoted ∧
    Config.ofFile (fun _ => .ok (octetsOf awkwardConfig.toText)) "c" = .ok awkwardConfig ∧
    ∃ after, awkwardConfig.save {} "c" = .ok after ∧
      Config.ofFile after.read "c" = .ok awkwardConfig := by
  obtain ⟨-, hfile, hsave, hread⟩ := saved_config_is_read_back awkwardConfig
  refine ⟨by decide +kernel, by decide +kernel, hfile _ "c" rfl, ?_⟩
  have hwrite (content : Octets) : ({} : Folder).write "c" content =
      .ok { files := [(["c"], content)] } := by cbv
  have hsaved := hsave {} "c" _ (hwrite _)
  exact ⟨_, hsaved, hread {} "c" _ hsaved⟩

end OscRemote
