import OscRemote.Proofs.Message.Encode
import OscRemote.Proofs.Text.Words
import OscRemote.Shell.Verb

/-!
# What a row of words leaves open

Every verb takes as many words as its name says, and leaves the others to the verbs behind it; only
`send` takes all that are left.  So how a row of words goes on is known from its last verb
(`Verb.Extends`): behind `send` there are only more words for it, and behind any other verb a row
begins anew.  Every row of words that is read goes on in one of these two ways
(`Verb.extends_of_readWords`), and this is the only induction along a line that is needed.
-/

namespace OscRemote.Verb

variable {words : List String} {v : Verb} {vs : List Verb}

/-! ## One verb -/

/-- Whether a verb takes all the words that are left. -/
def takesAll : Verb → Bool
  | send .. => true
  | _ => false

lemma not_takesAll_of_alone {name : String} (h : form? name = some (.alone v)) :
    v.takesAll = false := by
  unfold form? at h
  split at h <;> cases h <;> rfl

lemma not_takesAll_of_withWord {name usage word : String} {read : String → Except InputError Verb}
    (h : form? name = some (.withWord usage read)) (hv : read word = .ok v) :
    v.takesAll = false := by
  have hmap {α : Type} {f : α → Verb} {x : Except InputError α} (hf : ∀ a, (f a).takesAll = false)
      (h : f <$> x = .ok v) : v.takesAll = false := by
    cases x with
    | error fault => cases h
    | ok a => exact (Except.ok.inj h) ▸ hf a
  unfold form? at h
  split at h <;> cases h
  · exact hmap (fun _ => rfl) hv
  · exact hmap (fun _ => rfl) hv
  · exact hmap (fun _ => rfl) hv
  · exact hmap (fun _ => rfl) hv
  · unfold readBundle at hv
    split at hv <;> cases hv <;> rfl

/-! ## Words behind a row of verbs -/

/-- How a row of words that is read as verbs goes on with more words behind it.  Either nothing is
left open, and they are read as if they stood alone; or the last verb is `send`, with `rest` behind
its address, and they belong to it. -/
inductive Extends (words : List String) : List Verb → Prop
  | closed {vs : List Verb} (hvs : ∀ v ∈ vs, v.takesAll = false)
      (h : ∀ more, readWords (words ++ more) = (readWords more).map (vs ++ ·)) : Extends words vs
  | taking (us : List Verb) {kind : TransportKind} {address : String} {rest : List String}
      (hus : ∀ u ∈ us, u.takesAll = false) (hrest : address :: rest <:+ words)
      (h : ∀ more, readWords (words ++ more) =
        .ok (us ++ [.send kind address ((rest ++ more).head?.getD "") (rest ++ more).tail])) :
      Extends words (us ++ [.send kind address (rest.head?.getD "") rest.tail])

/-- Words that are read as one verb, whatever stands behind them, may be put in front. -/
lemma Extends.cons (front : List String) {v : Verb} (hv : v.takesAll = false)
    (hfront : ∀ words, readWords (front ++ words) = (readWords words).map (v :: ·))
    (h : Extends words vs) : Extends (front ++ words) (v :: vs) := by
  cases h with
  | closed hvs hmore =>
    refine .closed (List.forall_mem_cons.2 ⟨hv, hvs⟩) fun more => ?_
    rw [List.append_assoc, hfront, hmore]
    cases readWords more <;> rfl
  | taking us hus hrest hmore =>
    refine .taking (v :: us) (List.forall_mem_cons.2 ⟨hv, hus⟩)
      (hrest.trans (List.suffix_append front words)) fun more => ?_
    rw [List.append_assoc, hfront, hmore]
    rfl

/-- Words that are read as a transport, an address and all that is left take more words at the
end. -/
lemma readAll_append {name usage : String} {read : TransportKind → String → List String → Verb}
    {v : Verb} (h : readAll name usage read words = .ok v) :
    ∃ kind address rest, v = read kind address rest ∧ address :: rest <:+ words ∧
      ∀ more, readAll name usage read (words ++ more) = .ok (read kind address (rest ++ more)) := by
  rcases words with _ | ⟨word, _ | ⟨address, rest⟩⟩
  · cases h
  · obtain ⟨kind, -, h⟩ := exists_of_bind_eq_ok h
    cases h
  · obtain ⟨kind, hkind, h⟩ := exists_of_bind_eq_ok h
    obtain rfl := Except.ok.inj h
    refine ⟨kind, address, rest, rfl, List.suffix_cons word _, fun more => ?_⟩
    rw [List.cons_append, List.cons_append, readAll, hkind]
    rfl

lemma form?_withAll {name usage : String} {read : TransportKind → String → List String → Verb}
    (h : form? name = some (.withAll usage read)) :
    read = fun kind address words => .send kind address (words.head?.getD "") words.tail := by
  unfold form? at h
  split at h <;> cases h
  rfl

/-- Every row of words that is read goes on in one of the two ways. -/
lemma extends_of_readWords (h : readWords words = .ok vs) : Extends words vs := by
  fun_induction readWords words generalizing vs with
  | case1 =>
    obtain rfl := Except.ok.inj h
    refine .closed (List.forall_mem_nil _) fun more => ?_
    cases hmore : readWords more <;> rw [List.nil_append, hmore] <;> rfl
  | case2 | case4 => cases h
  | case3 word words name verb hform =>
    rename_i ih
    obtain ⟨verbs, hverbs, h⟩ := exists_of_bind_eq_ok h
    obtain rfl := Except.ok.inj h
    exact (ih hverbs).cons [word] (not_takesAll_of_alone hform)
      fun words => readWords_of_alone hform words
  | case5 word name usage read hform argument words =>
    rename_i ih
    obtain ⟨verb, hverb, h⟩ := exists_of_bind_eq_ok h
    obtain ⟨verbs, hverbs, h⟩ := exists_of_bind_eq_ok h
    obtain rfl := Except.ok.inj h
    refine (ih hverbs).cons [word, argument] (not_takesAll_of_withWord hform hverb)
      fun words => ?_
    rw [List.cons_append, List.singleton_append, readWords_of_withWord hform, hverb]
    rfl
  | case6 word words name usage read =>
    rename_i hform
    obtain ⟨verb, hverb, h⟩ := exists_of_bind_eq_ok h
    obtain rfl := Except.ok.inj h
    obtain ⟨kind, address, rest, rfl, hrest, hmore⟩ := readAll_append hverb
    obtain rfl := form?_withAll hform
    refine .taking [] (List.forall_mem_nil _) (hrest.trans (List.suffix_cons word words))
      fun more => ?_
    rw [List.cons_append, readWords_of_withAll hform, hmore]
    rfl

/-- A row without `send` leaves nothing open. -/
lemma Extends.of_not_takesAll (h : Extends words vs) (hvs : ∀ v ∈ vs, v.takesAll = false)
    (more : List String) : readWords (words ++ more) = (readWords more).map (vs ++ ·) := by
  cases h with
  | closed _ hmore => exact hmore more
  | taking us => cases hvs _ (List.mem_append_right us (List.mem_singleton_self _))

/-- A row with `send` ends with it, and takes what stands behind it. -/
lemma Extends.of_send_mem (h : Extends words vs) {kind : TransportKind} {address tags : String}
    {values : List String} (hsend : .send kind address tags values ∈ vs) :
    ∃ us rest, vs = us ++ [.send kind address tags values] ∧ (∀ u ∈ us, u.takesAll = false) ∧
      tags = rest.head?.getD "" ∧ values = rest.tail ∧ address :: rest <:+ words ∧
      ∀ more, readWords (words ++ more) =
        .ok (us ++ [.send kind address ((rest ++ more).head?.getD "") (rest ++ more).tail]) := by
  cases h with
  | closed hvs => cases hvs _ hsend
  | @taking us kind' address' rest hus hrest hmore =>
    obtain hus' | hlast := List.mem_append.1 hsend
    · cases hus _ hus'
    · cases List.mem_singleton.1 hlast
      exact ⟨us, rest, rfl, hus, rfl, rfl, hrest, hmore⟩

end OscRemote.Verb
