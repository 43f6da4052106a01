import OscRemote.Proofs.Message.Padding

/-!
# What a message looks like that was written

`of_encode` takes a message that was written apart into its address, its tags and the values of its
arguments.  So its first octet is the slash of its address.
-/

namespace OscRemote

variable {ε α β : Type}

/-- What succeeds in two steps succeeds in each. -/
lemma exists_of_bind_eq_ok {first : Except ε α} {next : α → Except ε β}
    {result : β} (h : (do let value ← first; next value) = .ok result) :
    ∃ value, first = .ok value ∧ next value = .ok result := by
  rcases first with cause | value
  · cases h
  · exact ⟨value, rfl, h⟩

lemma payload_character (code : UInt8) :
    (Argument.character code).payload =
      if code < 128 then pure [code, 0, 0, 0]
      else throw (.badValue 'c' (Argument.characterText code)) := rfl

lemma payload_text (value : String) :
    (Argument.text value).payload =
      (do
        checkText value
        pure (padded (octetsOf value))) := rfl

/-- A character that has an encoding is written in the first octet of four. -/
lemma of_payload_character {code : UInt8} {bs : Octets}
    (h : (Argument.character code).payload = .ok bs) : bs = [code, 0, 0, 0] := by
  rw [payload_character] at h
  split at h
  case isTrue => exact (Except.ok.inj h).symm
  case isFalse => cases h

/-- The values of a list of arguments begin with the value of the first. -/
lemma of_mapM_payload_cons {arg : Argument} {args : List Argument} {payloads : List Octets}
    (h : (arg :: args).mapM Argument.payload = .ok payloads) :
    ∃ first rest, arg.payload = .ok first ∧ args.mapM Argument.payload = .ok rest ∧
      payloads = first :: rest := by
  rw [List.mapM_cons] at h
  obtain ⟨first, hfirst, h⟩ := exists_of_bind_eq_ok h
  obtain ⟨rest, hrest, h⟩ := exists_of_bind_eq_ok h
  exact ⟨first, rest, hfirst, hrest, (Except.ok.inj h).symm⟩

/-- The parts of a message that was written. -/
lemma of_encode {address : String} {args : List Argument} {bs : Octets}
    (h : encode address args = .ok bs) :
    checkAddress address = .ok () ∧ ∃ payloads, args.mapM Argument.payload = .ok payloads ∧
      bs = padded (octetsOf address) ++ padded (octetsOf (typeTags args)) ++ payloads.flatten := by
  obtain ⟨_, hcheck, h⟩ := exists_of_bind_eq_ok h
  obtain ⟨payloads, hpayloads, h⟩ := exists_of_bind_eq_ok h
  exact ⟨hcheck, payloads, hpayloads, (Except.ok.inj h).symm⟩

/-! ## The first octet -/

/-- The octet of a slash. -/
def slashOctet : UInt8 := 47

/-- A message begins with a slash. -/
lemma head?_encode {address : String} {args : List Argument} {bs : Octets}
    (h : encode address args = .ok bs) : bs.head? = some slashOctet := by
  obtain ⟨hcheck, payloads, -, rfl⟩ := of_encode h
  obtain ⟨cs, hcs⟩ := List.head?_eq_some_iff.1 (of_checkAddress hcheck).1
  have haddress : octetsOf address = slashOctet :: cs.flatMap String.utf8EncodeChar := by
    rw [octetsOf_eq_flatMap, hcs, List.flatMap_cons]
    rfl
  rw [haddress, padded]
  rfl

end OscRemote
