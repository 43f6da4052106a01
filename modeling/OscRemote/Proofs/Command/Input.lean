import OscRemote.Command.Input
import OscRemote.Proofs.Message.ReadArgument

/-!
# Tags and their values

Arguments are read from tags and values that stand in two rows, and the values are passed as the
tags are: a marker passes none.  Here it is said for each tag alone what it comes to
(`argumentAt?`).  It has the value whose number is the number of tags before it that take one
(`valuesBefore`); it is at fault if there is none, or if the value is no argument under it.

Reading agrees with this at every tag (`of_readArguments_eq_ok`), and where it fails, it does so by
the fault of the first tag that has one; only if none has, by a value that is left over
(`readArguments_eq_error_iff`).
-/

namespace OscRemote

variable {tag : Char} {tags : List Char} {values : List String} {args : List Argument}

/-! ## One tag -/

/-- The tags before tag number `i` that take a value. -/
def valuesBefore (tags : List Char) (i : Nat) : Nat :=
  (tags.take i).countP Argument.takesValue

/-- What a tag makes of its value, if it has one. -/
def readWith (tag : Char) : Option String → Except CommandError Argument
  | some value => (Argument.read tag value).mapError .argument
  | none => .error (.input (.missingValue tag))

/-- The value of tag number `i`, if there is one; a marker has the empty text. -/
def valueAt? (tags : List Char) (values : List String) (i : Nat) (tag : Char) : Option String :=
  if Argument.takesValue tag then values[valuesBefore tags i]? else some ""

/-- What tag number `i` comes to, an argument or a fault, if there is such a tag. -/
def argumentAt? (tags : List Char) (values : List String) (i : Nat) :
    Option (Except CommandError Argument) :=
  tags[i]?.map fun tag => readWith tag (valueAt? tags values i tag)

/-- The values that a tag leaves to those behind it. -/
def valuesAfter (tag : Char) (values : List String) : List String :=
  if Argument.takesValue tag then values.tail else values

/-- Tag number `i` comes to an argument. -/
def IsReadAt (tags : List Char) (values : List String) (i : Nat) : Prop :=
  ∃ arg, argumentAt? tags values i = some (.ok arg)

lemma getElem?_valuesAfter (n : Nat) : (valuesAfter tag values)[n]? =
    values[n + if Argument.takesValue tag then 1 else 0]? := by
  unfold valuesAfter
  cases Argument.takesValue tag with
  | true => exact List.getElem?_tail
  | false => rfl

lemma argumentAt?_zero : argumentAt? (tag :: tags) values 0 =
    some (readWith tag (valueAt? (tag :: tags) values 0 tag)) := rfl

/-- Behind the first tag, tags come to what they do without it, on the values that it leaves. -/
lemma argumentAt?_succ (i : Nat) : argumentAt? (tag :: tags) values (i + 1) =
    argumentAt? tags (valuesAfter tag values) i := by
  have hbefore : valuesBefore (tag :: tags) (i + 1) =
      valuesBefore tags i + if Argument.takesValue tag then 1 else 0 := by
    rw [valuesBefore, List.take_succ_cons, List.countP_cons, valuesBefore]
  have hvalue : valueAt? (tag :: tags) values (i + 1) =
      valueAt? tags (valuesAfter tag values) i := by
    funext t
    rw [valueAt?, valueAt?, hbefore, getElem?_valuesAfter]
  rw [argumentAt?, argumentAt?, List.getElem?_cons_succ, hvalue]

/-- A tag that comes to an argument leaves all values, or all but the first. -/
lemma length_eq_of_readWith {arg : Argument}
    (h : readWith tag (valueAt? (tag :: tags) values 0 tag) = .ok arg) :
    values.length = (valuesAfter tag values).length + if Argument.takesValue tag then 1 else 0 := by
  unfold valuesAfter
  unfold valueAt? at h
  cases htag : Argument.takesValue tag with
  | false => rfl
  | true =>
    rw [htag, if_pos rfl] at h
    cases values with
    | nil => cases h
    | cons value values => rfl

/-- Reading arguments is to read the first, and then the others from the values that are left. -/
lemma readArguments_cons : readArguments (tag :: tags) values =
    (do
      let arg ← readWith tag (valueAt? (tag :: tags) values 0 tag)
      let args ← readArguments tags (valuesAfter tag values)
      pure (arg :: args)) := by
  rw [readArguments]
  unfold valueFor valueAt? valuesAfter
  cases Argument.takesValue tag with
  | true =>
    cases values with
    | nil => rfl
    | cons value values => rfl
  | false => rfl

/-! ## All tags -/

/-- Arguments that are read are what the tags come to one by one, and there are as many values as
tags that take one. -/
lemma of_readArguments_eq_ok (h : readArguments tags values = .ok args) :
    values.length = tags.countP Argument.takesValue ∧
      ∀ i, argumentAt? tags values i = args[i]?.map Except.ok := by
  induction tags generalizing values args with
  | nil =>
    cases values with
    | nil =>
      obtain rfl := Except.ok.inj h
      exact ⟨rfl, fun i => rfl⟩
    | cons value values => cases h
  | cons tag tags ih =>
    rw [readArguments_cons] at h
    obtain ⟨arg, hfirst, h⟩ := exists_of_bind_eq_ok h
    obtain ⟨rest, hrest, h⟩ := exists_of_bind_eq_ok h
    obtain rfl := Except.ok.inj h
    obtain ⟨hlength, hall⟩ := ih hrest
    constructor
    · rw [length_eq_of_readWith hfirst, hlength, List.countP_cons]
    · intro i
      cases i with
      | zero =>
        rw [argumentAt?_zero, hfirst]
        rfl
      | succ i => rw [argumentAt?_succ, hall, List.getElem?_cons_succ]

/-- The cause is the fault of the first tag that has one; or every tag comes to an argument, and it
is that a value is left over, and names the first of these. -/
def FailsBy (tags : List Char) (values : List String) (e : CommandError) : Prop :=
  (∃ i, argumentAt? tags values i = some (.error e) ∧ ∀ j < i, IsReadAt tags values j) ∨
    (∀ i < tags.length, IsReadAt tags values i) ∧
      ∃ value, values[tags.countP Argument.takesValue]? = some value ∧
        e = .input (.unexpectedValue value)

variable {arg : Argument} {e e' : CommandError}

/-- Without a tag, there is only the first value to be left over. -/
lemma failsBy_nil : FailsBy [] values e ↔
    ∃ value, values.head? = some value ∧ e = .input (.unexpectedValue value) := by
  rw [List.head?_eq_getElem?]
  constructor
  · rintro (⟨i, hi, -⟩ | ⟨-, h⟩)
    · cases hi
    · exact h
  · exact fun h => Or.inr ⟨nofun, h⟩

/-- The fault of the first tag comes before all others. -/
lemma failsBy_cons_of_error (h : readWith tag (valueAt? (tag :: tags) values 0 tag) = .error e') :
    FailsBy (tag :: tags) values e ↔ e' = e := by
  have hzero : argumentAt? (tag :: tags) values 0 = some (.error e') := by
    rw [argumentAt?_zero, h]
  have hnone : ¬ IsReadAt (tag :: tags) values 0 := by
    rintro ⟨arg, harg⟩
    cases hzero.symm.trans harg
  constructor
  · rintro (⟨i, hi, hbefore⟩ | ⟨hall, -⟩)
    · obtain rfl : i = 0 := Nat.eq_zero_of_not_pos fun hpos => hnone (hbefore 0 hpos)
      exact Except.error.inj (Option.some.inj (hzero.symm.trans hi))
    · exact absurd (hall 0 (Nat.zero_lt_succ _)) hnone
  · rintro rfl
    exact Or.inl ⟨0, hzero, fun j hj => absurd hj (Nat.not_lt_zero j)⟩

/-- Where the first tag comes to an argument, there remain the faults of the others. -/
lemma failsBy_cons_of_ok (h : readWith tag (valueAt? (tag :: tags) values 0 tag) = .ok arg) :
    FailsBy (tag :: tags) values e ↔ FailsBy tags (valuesAfter tag values) e := by
  have hzero : argumentAt? (tag :: tags) values 0 = some (.ok arg) := by
    rw [argumentAt?_zero, h]
  have hsucc (j : Nat) : IsReadAt (tag :: tags) values (j + 1) ↔
      IsReadAt tags (valuesAfter tag values) j := by
    rw [IsReadAt, argumentAt?_succ, IsReadAt]
  have hbefore (n : Nat) : (∀ j < n + 1, IsReadAt (tag :: tags) values j) ↔
      ∀ j < n, IsReadAt tags (valuesAfter tag values) j := by
    rw [Nat.forall_lt_succ_left]
    simp only [hsucc]
    exact and_iff_right ⟨arg, hzero⟩
  refine or_congr ?_ (and_congr (hbefore tags.length) ?_)
  · constructor
    · rintro ⟨i, hi, hread⟩
      cases i with
      | zero => cases hzero.symm.trans hi
      | succ i =>
        rw [argumentAt?_succ] at hi
        exact ⟨i, hi, (hbefore i).1 hread⟩
    · rintro ⟨i, hi, hread⟩
      exact ⟨i + 1, (argumentAt?_succ i).trans hi, (hbefore i).2 hread⟩
  · rw [List.countP_cons, getElem?_valuesAfter]

/-- Reading fails by exactly one cause, if there is one. -/
lemma readArguments_eq_error_iff :
    readArguments tags values = .error e ↔ FailsBy tags values e := by
  induction tags generalizing values with
  | nil =>
    rw [failsBy_nil]
    cases values with
    | nil => exact iff_of_false nofun nofun
    | cons value values =>
      constructor
      · intro h
        exact ⟨value, rfl, (Except.error.inj h).symm⟩
      · rintro ⟨value', hvalue, rfl⟩
        obtain rfl := Option.some.inj hvalue
        rfl
  | cons tag tags ih =>
    rw [readArguments_cons]
    cases hfirst : readWith tag (valueAt? (tag :: tags) values 0 tag) with
    | error e' =>
      rw [failsBy_cons_of_error hfirst]
      exact ⟨Except.error.inj, congrArg Except.error⟩
    | ok arg =>
      rw [failsBy_cons_of_ok hfirst, ← ih]
      cases readArguments tags (valuesAfter tag values) with
      | error e' => exact Iff.rfl
      | ok args => exact iff_of_false nofun nofun

/-! ## The arguments of a message -/

/-- One comma may be left out in front, and only there. -/
lemma toList_eq_or (text : String) : text.toList = ',' :: tagsOf text ∨
    text.toList = tagsOf text ∧ text.toList.head? ≠ some ',' := by
  unfold tagsOf
  split
  case h_1 tags htext => exact Or.inl htext
  case h_2 hcomma =>
    refine Or.inr ⟨rfl, fun hhead => ?_⟩
    obtain ⟨tags, htext⟩ := List.head?_eq_some_iff.1 hhead
    exact hcomma tags htext

lemma tag_of_readWith {value? : Option String} (h : readWith tag value? = .ok arg) :
    arg.tag = tag := by
  cases value? with
  | none => cases h
  | some value =>
    have hread : Argument.read tag value = .ok arg := by
      rw [readWith] at h
      cases hread : Argument.read tag value with
      | error e =>
        rw [hread] at h
        cases h
      | ok arg' =>
        rw [hread] at h
        exact congrArg Except.ok (Except.ok.inj h)
    exact (Argument.of_ofText? (Argument.read_eq_ok_iff.1 hread)).1

/-- Arguments that are read have the tags that they are read by. -/
lemma map_tag_of_readArguments (h : readArguments tags values = .ok args) :
    args.map Argument.tag = tags := by
  refine List.ext_getElem? fun i => ?_
  have hi := (of_readArguments_eq_ok h).2 i
  rw [argumentAt?] at hi
  rw [List.getElem?_map]
  cases htag : tags[i]? with
  | none =>
    rw [htag] at hi
    rw [Option.map_eq_none_iff.1 hi.symm]
    rfl
  | some tag =>
    rw [htag] at hi
    obtain ⟨arg, harg, hread⟩ := Option.map_eq_some_iff.1 hi.symm
    rw [harg, Option.map_some, tag_of_readWith hread.symm]

/-- A tag text and values are read, a comma in front of the tags left out, if there are as many
values as tags that take one and every tag comes to an argument with its own.  The arguments have
these tags, in order, and so the message has them behind a comma, in the place of its tags.

All else fails, by the fault of the first tag that has one, that there is no value for it before
all others; and that a value is left over only if no tag has a fault. -/
theorem readArguments_matches (text : String) (values : List String) :
    (text.toList = ',' :: tagsOf text ∨
      text.toList = tagsOf text ∧ text.toList.head? ≠ some ',') ∧
    ((∃ args, readArguments (tagsOf text) values = .ok args) ↔
      values.length = (tagsOf text).countP Argument.takesValue ∧
        ∀ i < (tagsOf text).length, IsReadAt (tagsOf text) values i) ∧
    (∀ args, readArguments (tagsOf text) values = .ok args →
      args.map Argument.tag = tagsOf text ∧
      (∀ i, argumentAt? (tagsOf text) values i = args[i]?.map Except.ok) ∧
      ∀ address bs, encode address args = .ok bs →
        padded (octetsOf (String.ofList (',' :: tagsOf text))) <+:
          bs.drop (padded (octetsOf address)).length) ∧
    ∀ e, readArguments (tagsOf text) values = .error e ↔ FailsBy (tagsOf text) values e := by
  refine ⟨toList_eq_or text, ⟨?_, ?_⟩, ?_, fun e => readArguments_eq_error_iff⟩
  · rintro ⟨args, hargs⟩
    obtain ⟨hlength, hall⟩ := of_readArguments_eq_ok hargs
    refine ⟨hlength, fun i hi => ?_⟩
    have hlt : i < args.length := by
      rwa [← map_tag_of_readArguments hargs, List.length_map] at hi
    exact ⟨args[i], by rw [hall, List.getElem?_eq_getElem hlt, Option.map_some]⟩
  · rintro ⟨hlength, hall⟩
    cases hread : readArguments (tagsOf text) values with
    | ok args => exact ⟨args, rfl⟩
    | error e =>
      rcases readArguments_eq_error_iff.1 hread with ⟨i, hi, -⟩ | ⟨-, value, hvalue, -⟩
      · obtain ⟨tag, htag, -⟩ := Option.map_eq_some_iff.1 hi
        obtain ⟨arg, harg⟩ := hall i (List.getElem?_eq_some_iff.1 htag).1
        cases hi.symm.trans harg
      · rw [← hlength, List.getElem?_eq_none (Nat.le_refl _)] at hvalue
        cases hvalue
  · intro args hargs
    have htags := map_tag_of_readArguments hargs
    refine ⟨htags, (of_readArguments_eq_ok hargs).2, fun address bs hbs => ?_⟩
    rw [encode_eq] at hbs
    obtain ⟨-, rfl⟩ := unlessFault_eq_ok_iff.1 hbs
    rw [layout, List.append_assoc, List.drop_left, typeTags, htags]
    exact List.prefix_append _ _

/-- Two values for three tags; and a second comma, which takes a value that is not there. -/
theorem readArguments_matches_sample :
    readArguments (tagsOf ",iTs") ["3", "cue"] = .ok [.int32 3, .flag true, .text "cue"] ∧
    [Argument.int32 3, .flag true, .text "cue"].map Argument.tag = tagsOf ",iTs" ∧
    FailsBy (tagsOf ",T,i") [] (.input (.missingValue ',')) := by
  have hread : readArguments (tagsOf ",iTs") ["3", "cue"] =
      .ok [.int32 3, .flag true, .text "cue"] := by decide
  obtain ⟨-, -, hargs, -⟩ := readArguments_matches ",iTs" ["3", "cue"]
  obtain ⟨-, -, -, hfails⟩ := readArguments_matches ",T,i" []
  exact ⟨hread, (hargs _ hread).1, (hfails _).1 (by decide)⟩

end OscRemote
