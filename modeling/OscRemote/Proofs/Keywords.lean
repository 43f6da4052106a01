import OscRemote.Proofs.Shell.Reading
import OscRemote.Proofs.Text.Lowercase

/-!
# The words that are looked for

Three readers look for words in letters of either case: that of the names of transports, that of
the verbs of the shell, and that of the yes in the environment.  All three compare a text in small
letters, by the rules of Unicode, and none of the words can be reached by these rules in any way but
by the capital letters from A to Z (`Text.IsKeyword`): whatever is accepted is ASCII.
-/

namespace OscRemote

open Text (IsAscii IsKeyword SameButCase)

-- To decide about the characters of a text, only these are tried, and not all that there are.
attribute [local instance (2000)] List.decidableBAll

variable {s w : String}

/-- A text in small letters is one of some keywords if it is one of them but for the case. -/
lemma Text.lowercase_mem_iff {keywords : List String} (h : ∀ w ∈ keywords, IsKeyword w) :
    Text.lowercase s ∈ keywords ↔ ∃ w ∈ keywords, SameButCase s w := by
  constructor
  · intro hmem
    exact ⟨_, hmem, (h _ hmem).lowercase_eq_iff.1 rfl⟩
  · rintro ⟨w, hw, hsame⟩
    exact (h w hw).lowercase_eq_iff.2 hsame ▸ hw

/-! ## Transports -/

namespace TransportKind

/-- The words for a transport. -/
def words : TransportKind → List String
  | stream => ["tcp", "stream"]
  | datagram => ["udp", "datagram"]

lemma isKeyword_of_mem_words : ∀ {kind : TransportKind}, ∀ w ∈ kind.words, IsKeyword w
  | stream => by decide
  | datagram => by decide

lemma read_eq_ok_iff {kind : TransportKind} :
    read s = .ok kind ↔ ∃ w ∈ kind.words, SameButCase s w := by
  rw [← Text.lowercase_mem_iff isKeyword_of_mem_words, read]
  split <;> cases kind <;> simp_all [words, pure, Except.pure, throw, throwThe, MonadExceptOf.throw]

end TransportKind

/-! ## Verbs -/

namespace Verb

/-- The names of the verbs. -/
def names : List String :=
  ["help", "?", "quit", "exit", "q", "load", "unload", "mute", "system_mute", "volume",
    "system_volume", "bundle", "drain", "send"]

lemma isKeyword_of_mem_names : ∀ w ∈ names, IsKeyword w := by decide

lemma mem_names_of_form? {name : String} {form : Form} (h : form? name = some form) :
    name ∈ names := by
  unfold form? at h
  split at h
  all_goals first | decide | cases h

/-- Every verb is read with the right words behind it. -/
lemma exists_readWords_of_mem_names : ∀ w ∈ names, ∃ words ∈ [[], ["1"], ["start"], ["tcp", "/"]],
    (readWords (w :: words)).isOk = true := by
  decide +kernel

/-- How a verb is read depends on its small letters only. -/
lemma readWords_congr (h : Text.lowercase s = Text.lowercase w) (more : List String) :
    readWords (s :: more) = readWords (w :: more) := by
  simp only [readWords, h]

lemma readWords_of_not_mem_names (h : Text.lowercase s ∉ names) (more : List String) :
    readWords (s :: more) = .error (.unknownVerb (Text.lowercase s)) := by
  have hnone : form? (Text.lowercase s) = none :=
    Option.eq_none_iff_forall_ne_some.2 fun form hform => h (mem_names_of_form? hform)
  rw [readWords]
  simp only [hnone]
  rfl

/-- A name in letters of either case is read as the name. -/
lemma readWords_of_sameButCase (hw : w ∈ names) (h : SameButCase s w) (more : List String) :
    readWords (s :: more) = readWords (w :: more) := by
  refine readWords_congr ?_ more
  rw [(isKeyword_of_mem_names w hw).lowercase_eq_iff.2 h,
    (isKeyword_of_mem_names w hw).lowercase_eq_iff.2 rfl]

lemma exists_readWords_iff :
    (∃ words verbs, readWords (s :: words) = .ok verbs) ↔ ∃ w ∈ names, SameButCase s w := by
  constructor
  · rintro ⟨words, verbs, hread⟩
    by_contra hnone
    rw [← Text.lowercase_mem_iff isKeyword_of_mem_names] at hnone
    rw [readWords_of_not_mem_names hnone] at hread
    cases hread
  · rintro ⟨w, hw, hsame⟩
    obtain ⟨words, -, hok⟩ := exists_readWords_of_mem_names w hw
    refine ⟨words, ?_⟩
    rw [readWords_of_sameButCase hw hsame]
    cases hread : readWords (w :: words) with
    | ok verbs => exact ⟨verbs, rfl⟩
    | error fault =>
      rw [hread] at hok
      cases hok

/-- Words behind which a verb is read: they are verbs, with all that they take, and nothing is left
open. -/
def Complete (words : List String) : Prop :=
  ∃ verbs, readWords words = .ok verbs ∧ ∀ v ∈ verbs, v.takesAll = false

/-- A line in which a verb is unknown is refused for it. -/
lemma readWords_append_of_not_mem_names {before : List String} (hbefore : Complete before)
    (h : Text.lowercase s ∉ names) (more : List String) :
    readWords (before ++ s :: more) = .error (.unknownVerb (Text.lowercase s)) := by
  obtain ⟨verbs, hread, hverbs⟩ := hbefore
  rw [(extends_of_readWords hread).of_not_takesAll hverbs, readWords_of_not_mem_names h]
  rfl

/-- A name in letters of either case is read as the name wherever a verb is read. -/
lemma readWords_append_of_sameButCase {before : List String} (hbefore : Complete before)
    (hw : w ∈ names) (h : SameButCase s w) (more : List String) :
    readWords (before ++ s :: more) = readWords (before ++ w :: more) := by
  obtain ⟨verbs, hread, hverbs⟩ := hbefore
  have hmore := (extends_of_readWords hread).of_not_takesAll hverbs
  rw [hmore, hmore, readWords_of_sameButCase hw h]

end Verb

/-! ## The yes of the environment -/

lemma isKeyword_true : IsKeyword "true" := by decide

lemma saysYes_iff : saysYes s = true ↔ s = "1" ∨ SameButCase s "true" := by
  rw [saysYes, Bool.or_eq_true, beq_iff_eq, beq_iff_eq, isKeyword_true.lowercase_eq_iff]

/-- What says yes is ASCII. -/
lemma isAscii_of_saysYes (h : saysYes s = true) : ∀ c ∈ s.toList, IsAscii c := by
  obtain rfl | hsame := saysYes_iff.1 h
  · decide
  · exact hsame.isAscii isKeyword_true

/-! ## All of them -/

/-- The words that are looked for are recognised with their letters from A to Z in either case, and
in no other spelling: the words for a transport, the names of the verbs wherever a verb is read, and
the yes of the environment.  Nothing with a character beyond ASCII is recognised. -/
theorem keywords_recognised_up_to_case (s : String) :
    (∀ kind, TransportKind.read s = .ok kind ↔ ∃ w ∈ kind.words, SameButCase s w) ∧
    ((∃ words verbs, Verb.readWords (s :: words) = .ok verbs) ↔
      ∃ w ∈ Verb.names, SameButCase s w) ∧
    (∀ line before more, Text.words line = before ++ s :: more → Verb.Complete before →
      (∀ w ∈ Verb.names, SameButCase s w →
        Verb.readLine line = Verb.readWords (before ++ w :: more)) ∧
      ((∀ w ∈ Verb.names, ¬ SameButCase s w) →
        Verb.readLine line = .error (.unknownVerb (Text.lowercase s)))) ∧
    (∀ (c : Config) (env : Environment), env "AMC_UNLOAD_ON_CLOSE" = some s →
      ((c.override env).onClose.unload = true ↔ s = "1" ∨ SameButCase s "true")) ∧
    ((∃ c ∈ s.toList, ¬ IsAscii c) →
      (∀ kind, TransportKind.read s ≠ .ok kind) ∧
      (∀ words verbs, Verb.readWords (s :: words) ≠ .ok verbs) ∧
      ∀ (c : Config) (env : Environment), env "AMC_UNLOAD_ON_CLOSE" = some s →
        (c.override env).onClose.unload = false) := by
  have hunload (c : Config) (env : Environment) (henv : env "AMC_UNLOAD_ON_CLOSE" = some s) :
      (c.override env).onClose.unload = saysYes s := by
    simp [Config.override, henv]
  refine ⟨fun kind => TransportKind.read_eq_ok_iff, Verb.exists_readWords_iff, ?verbs, ?yes,
    ?beyond⟩
  case verbs =>
    intro line before more hline hbefore
    rw [Verb.readLine, hline]
    refine ⟨fun w hw hsame => Verb.readWords_append_of_sameButCase hbefore hw hsame more, ?_⟩
    intro hnone
    refine Verb.readWords_append_of_not_mem_names hbefore (fun hmem => ?_) more
    obtain ⟨w, hw, hsame⟩ := (Text.lowercase_mem_iff Verb.isKeyword_of_mem_names).1 hmem
    exact hnone w hw hsame
  case yes =>
    intro c env henv
    rw [hunload c env henv, saysYes_iff]
  case beyond =>
    rintro ⟨d, hd, hbeyond⟩
    refine ⟨fun kind hread => ?_, fun words verbs hread => ?_, fun c env henv => ?_⟩
    · obtain ⟨w, hw, hsame⟩ := TransportKind.read_eq_ok_iff.1 hread
      exact hbeyond (hsame.isAscii (TransportKind.isKeyword_of_mem_words w hw) d hd)
    · obtain ⟨w, hw, hsame⟩ := Verb.exists_readWords_iff.1 ⟨words, verbs, hread⟩
      exact hbeyond (hsame.isAscii (Verb.isKeyword_of_mem_names w hw) d hd)
    · rw [hunload c env henv]
      exact eq_false_of_ne_true fun hyes => hbeyond (isAscii_of_saysYes hyes d hd)

/-- A verb in capital letters behind another, a yes in letters of both cases, and a verb whose
letter has the dot that the small letter keeps as a mark. -/
theorem keywords_recognised_up_to_case_sample :
    Verb.readLine "mute 1 LOAD" = Verb.readWords ["mute", "1", "load"] ∧
    Verb.readLine "mute 1 dra\u0130n" = .error (.unknownVerb "drai\u0307n") ∧
    (({} : Config).override fun _ => some "tRUE").onClose.unload = true ∧
    (∀ words verbs, Verb.readWords ("dra\u0130n" :: words) ≠ .ok verbs) := by
  have hbefore : Verb.Complete ["mute", "1"] := ⟨[.mute true], by decide +kernel, by decide⟩
  refine ⟨?_, ?_, ?_, ?_⟩
  · exact ((keywords_recognised_up_to_case "LOAD").2.2.1 "mute 1 LOAD" ["mute", "1"] []
      (by decide +kernel) hbefore).1 "load" (by decide) (by decide)
  · exact ((keywords_recognised_up_to_case "dra\u0130n").2.2.1 "mute 1 dra\u0130n" ["mute", "1"] []
      (by decide +kernel) hbefore).2 (by decide +kernel)
  · exact ((keywords_recognised_up_to_case "tRUE").2.2.2.1 {} (fun _ => some "tRUE") rfl).2
      (Or.inr (by decide))
  · exact ((keywords_recognised_up_to_case "dra\u0130n").2.2.2.2 ⟨'\u0130', by decide,
      by decide⟩).2.1

end OscRemote
