import Mathlib.Tactic.Lemma
import OscRemote.Config.OfDocument
import OscRemote.Proofs.Message.Encode

/-!
# What a document holds under a key

`Document.valueAt?` follows keys from the root of a document, each to the value of the first entry
with this key.  A mapping whose fields are read has no key twice of those that are fields, so the
value that is read for a field is the one that its key leads to (`Document.lookup_of_fields`).
-/

namespace OscRemote

open Yaml (Node Document)

/-! ## Keys -/

namespace Yaml.Document

variable {d : Document} {n : Node} {name : String}

/-- The value of the first entry with this key. -/
def valueIn? (d : Document) (name : String) (entries : List (Node × Node)) : Option Node :=
  (entries.find? fun e => decide (d.text? e.1 = some name)).map Prod.snd

/-- The value of a key of a node, which has none unless it is a mapping. -/
def value? (d : Document) (n : Node) (name : String) : Option Node :=
  (d.entries? n).bind (d.valueIn? name)

/-- The value to which keys lead from the root. -/
def valueAt? (d : Document) (keys : List String) : Option Node :=
  keys.foldl (fun n? name => n?.bind fun n => d.value? n name) d.root

lemma valueIn?_cons_of_eq {key value : Node} {entries : List (Node × Node)}
    (h : d.text? key = some name) : d.valueIn? name ((key, value) :: entries) = some value := by
  rw [valueIn?, List.find?_cons_of_pos (by simpa using h)]
  rfl

lemma valueIn?_cons_of_ne {key value : Node} {entries : List (Node × Node)}
    (h : d.text? key ≠ some name) :
    d.valueIn? name ((key, value) :: entries) = d.valueIn? name entries := by
  rw [valueIn?, List.find?_cons_of_neg (by simpa using h), valueIn?]

end Yaml.Document

namespace Misreading

lemma require_eq_ok_iff {α : Type} {cause : Misreading} {x : Option α} {a : α} :
    require cause x = .ok a ↔ x = some a := by
  cases x with
  | none => exact iff_of_false (by rintro ⟨⟩) (by rintro ⟨⟩)
  | some b =>
    exact ⟨fun h => congrArg some (Except.ok.inj h),
      fun h => congrArg Except.ok (Option.some.inj h)⟩

end Misreading

namespace Yaml.Document

variable {d : Document} {n : Node} {name : String} {names : List String}

/-! ## Fields -/

/-- The step by which fields are collected. -/
def addField (d : Document) (names : List String) (found : List (String × Node))
    (e : Node × Node) : Except Misreading (List (String × Node)) := do
  let name ← Misreading.require .keyNotText (d.text? e.1)
  if !names.contains name then pure found
  else if (found.lookup name).isSome then throw (.repeated name)
  else pure ((name, e.2) :: found)

lemma fields_eq (d : Document) (names : List String) (n : Node) : d.fields names n =
    (Misreading.require .notMapping (d.entries? n)).bind fun entries =>
      entries.foldlM (d.addField names) [] :=
  rfl

/-- An entry is passed over, or it is a field that was not there yet. -/
lemma addField_cases {found after : List (String × Node)} {e : Node × Node}
    (h : d.addField names found e = .ok after) : ∃ key, d.text? e.1 = some key ∧
      (key ∉ names ∧ after = found ∨ found.lookup key = none ∧ after = (key, e.2) :: found) := by
  obtain ⟨key, hkey, h⟩ := exists_of_bind_eq_ok h
  refine ⟨key, Misreading.require_eq_ok_iff.1 hkey, ?_⟩
  split at h
  · next hother =>
    exact Or.inl ⟨by simpa using hother, (Except.ok.inj h).symm⟩
  · split at h
    · cases h
    · next hnone =>
      exact Or.inr ⟨Option.not_isSome_iff_eq_none.1 hnone, (Except.ok.inj h).symm⟩

/-- A field that was there stays, and any other is the first entry with its key. -/
lemma lookup_of_foldlM_addField (hname : name ∈ names) {entries : List (Node × Node)}
    {found after : List (String × Node)} (h : entries.foldlM (d.addField names) found = .ok after) :
    after.lookup name = (found.lookup name).or (d.valueIn? name entries) := by
  induction entries generalizing found with
  | nil =>
    obtain rfl := Except.ok.inj h
    exact Option.or_none.symm
  | cons e entries ih =>
    rw [List.foldlM_cons] at h
    obtain ⟨more, hstep, hrun⟩ := exists_of_bind_eq_ok h
    obtain ⟨key, hkey, ⟨hother, rfl⟩ | ⟨hnone, rfl⟩⟩ := addField_cases hstep
    · have hne : d.text? e.1 ≠ some name := by
        rintro heq
        exact hother (Option.some.inj (hkey.symm.trans heq) ▸ hname)
      rw [ih hrun, valueIn?_cons_of_ne hne]
    · rw [ih hrun]
      by_cases heq : key = name
      · subst heq
        rw [valueIn?_cons_of_eq hkey, List.lookup_cons_self, hnone]
        rfl
      · have hne : d.text? e.1 ≠ some name := by
          rw [hkey]
          exact fun h => heq (Option.some.inj h)
        rw [valueIn?_cons_of_ne hne, List.lookup_cons, beq_false_of_ne (Ne.symm heq)]

/-- The value of a field is that of its key. -/
lemma lookup_of_fields {given : List (String × Node)} (h : d.fields names n = .ok given)
    (hname : name ∈ names) : given.lookup name = d.value? n name := by
  rw [fields_eq] at h
  obtain ⟨entries, hentries, h⟩ := exists_of_bind_eq_ok h
  rw [lookup_of_foldlM_addField hname h, value?, Misreading.require_eq_ok_iff.1 hentries]
  rfl

/-- A mapping from names to values. -/
def ofPairs (pairs : List (String × Node)) : Node :=
  .mapping none (pairs.map fun pair => (.scalar none .plain pair.1.toList, pair.2))

lemma addField_of_mem {found : List (String × Node)} (value : Node) (hname : name ∈ names)
    (hnone : found.lookup name = none) :
    d.addField names found (.scalar none .plain name.toList, value) =
      .ok ((name, value) :: found) := by
  have htext : d.text? (.scalar none .plain name.toList) = some name :=
    congrArg some String.ofList_toList
  simp [addField, htext, Misreading.require, hname, hnone, pure, Except.pure, bind, Except.bind]

/-- Fields of different names are all collected. -/
lemma fields_ofPairs {pairs : List (String × Node)} (hnodup : (pairs.map Prod.fst).Nodup)
    (hnames : ∀ pair ∈ pairs, pair.1 ∈ names) :
    d.fields names (ofPairs pairs) = .ok pairs.reverse := by
  have hrun (found : List (String × Node)) (hfound : ∀ pair ∈ pairs, found.lookup pair.1 = none) :
      (pairs.map fun pair => (Node.scalar none .plain pair.1.toList, pair.2)).foldlM
        (d.addField names) found = .ok (pairs.reverse ++ found) := by
    induction pairs generalizing found with
    | nil => rfl
    | cons pair pairs ih =>
      rw [List.map_cons, List.nodup_cons] at hnodup
      obtain ⟨hname, hnames⟩ := List.forall_mem_cons.1 hnames
      rw [List.map_cons, List.foldlM_cons, addField_of_mem pair.2 hname
        (hfound pair List.mem_cons_self)]
      refine (ih hnodup.2 hnames _ fun other hother => ?_).trans (by simp)
      have hne : other.1 ≠ pair.1 := fun heq =>
        hnodup.1 (heq ▸ List.mem_map_of_mem hother)
      rw [List.lookup_cons, beq_false_of_ne hne]
      exact hfound other (List.mem_cons_of_mem pair hother)
  rw [fields_eq]
  exact (hrun [] fun _ _ => rfl).trans (by rw [List.append_nil])

end Yaml.Document

/-- A field that is read is not there and takes its default, or the value of its key is read. -/
lemma exists_of_optionalField {α : Type} {d : Document} {names : List String} {n : Node}
    {given : List (String × Node)} (hgiven : d.fields names n = .ok given) {name : String}
    (hname : name ∈ names) {default x : α} {read : Node → Except Misreading α}
    (h : optionalField given name default read = .ok x) : ∃ x? : Option α,
      (d.value? n name).map read = x?.map .ok ∧ x = x?.getD default := by
  rw [← Document.lookup_of_fields hgiven hname]
  unfold optionalField at h
  split at h
  · next value hvalue =>
    exact ⟨some x, by rw [hvalue, Option.map_some, h, Option.map_some], rfl⟩
  · next hnone =>
    exact ⟨none, by rw [hnone]; rfl, (Except.ok.inj h).symm⟩

/-- A field whose value is required to be of some kind is not there, or its value is of this
kind. -/
lemma exists_of_requiredField {α : Type} {d : Document} {names : List String} {n : Node}
    {given : List (String × Node)} (hgiven : d.fields names n = .ok given) {name : String}
    (hname : name ∈ names) {cause : Misreading} {read : Node → Option α} {default x : α}
    (h : optionalField given name default (fun n => Misreading.require cause (read n)) = .ok x) :
    ∃ x? : Option α, (d.value? n name).map read = x?.map some ∧ x = x?.getD default := by
  obtain ⟨x?, hx?, hx⟩ := exists_of_optionalField hgiven hname h
  refine ⟨x?, ?_, hx⟩
  cases hvalue : d.value? n name <;> cases x? <;> rw [hvalue] at hx?
  case none.none => rfl
  case none.some | some.none => cases hx?
  case some.some =>
    rw [Option.map_some, Misreading.require_eq_ok_iff.1 (Option.some.inj hx?)]
    rfl

end OscRemote
