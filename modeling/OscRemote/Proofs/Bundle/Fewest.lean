import OscRemote.Proofs.Bundle

/-!
# The fewest packets

Messages that are appended one after the other are cut into groups, one for each packet.  They could
be cut in other ways into groups that follow one another, of a single message or of several that fit
a packet together (`IsCut`), and the claim of this module is that no such way has fewer groups.

What carries it is that no cut gets ahead of the packets (`IsLeading`).  Whatever messages were
appended so far, a cut of them has more groups than there are packets, or it has as many, and then
its last group goes back at least as far as the last packet does.  The bundle hands a packet out
only when the next message does not fit behind those in it; so the message does not fit behind a
last group that goes back further either, and the cut has to begin a group as well.  Long messages
make no difference: a message that fits no packet has a group of its own on both sides.
-/

namespace OscRemote

-- Sums are those of the core library, whatever else is in scope.
attribute [local instance (2000)] Zero.ofOfNat0

namespace Bundle

variable {maxSize : Nat} {messages sent held : List Octets} {message : Octets}
variable {groups cut : List (List Octets)} {b : Bundle}

/-! ## Cuts -/

/-- How long the packet of these messages is: the header, and for each message its length and the
message itself. -/
def packetSize (messages : List Octets) : Nat :=
  headerSize + (messages.map fun message => lengthPrefixSize + message.length).sum

/-- A way to cut messages into consecutive groups for one packet each: no group is empty, and one of
two or more messages fits a packet. -/
structure IsCut (maxSize : Nat) (messages : List Octets) (groups : List (List Octets)) : Prop where
  flatten_eq : groups.flatten = messages
  ne_nil : ∀ group ∈ groups, group ≠ []
  fits : ∀ group ∈ groups, 2 ≤ group.length → packetSize group ≤ maxSize

lemma packetSize_append (first second : List Octets) :
    packetSize (first ++ second) =
      packetSize first + (second.map fun message => lengthPrefixSize + message.length).sum := by
  rw [packetSize, List.map_append, List.sum_append_nat, ← Nat.add_assoc, packetSize]

lemma length_packet (messages : List Octets) :
    (packet messages).length = packetSize messages := by
  induction messages using List.reverseRecOn with
  | nil => rfl
  | append_singleton messages message ih =>
    rw [packet_concat, List.length_append, ih, length_framed, packetSize_append]
    rfl

/-- The packet of messages behind others is no longer than that of all of them. -/
lemma packetSize_le_of_isSuffix {first second : List Octets} (h : first <:+ second) :
    packetSize first ≤ packetSize second := by
  obtain ⟨before, rfl⟩ := h
  rw [packetSize, packetSize, List.map_append, List.sum_append_nat]
  omega

lemma IsCut.eq_nil (h : IsCut maxSize [] cut) : cut = [] := by
  cases cut with
  | nil => rfl
  | cons group cut =>
    have hflatten := h.flatten_eq
    rw [List.flatten_cons, List.append_eq_nil_iff] at hflatten
    exact absurd hflatten.1 (h.ne_nil group (List.mem_cons_self ..))

/-- The last message is alone in the last group, or it stands behind others that fit with it. -/
lemma IsCut.concat_cases (h : IsCut maxSize (messages ++ [message]) cut) :
    (∃ before, cut = before ++ [[message]] ∧ IsCut maxSize messages before) ∨
    ∃ before last, cut = before ++ [last ++ [message]] ∧ last ≠ [] ∧
      packetSize (last ++ [message]) ≤ maxSize ∧ IsCut maxSize messages (before ++ [last]) := by
  obtain ⟨hflatten, hne, hfits⟩ := h
  rcases cut.eq_nil_or_concat with rfl | ⟨before, group, rfl⟩
  · simp at hflatten
  rw [List.concat_eq_append] at hflatten hne hfits ⊢
  rw [List.forall_mem_append, List.forall_mem_singleton] at hne hfits
  rcases group.eq_nil_or_concat with rfl | ⟨last, m, rfl⟩
  · exact absurd rfl hne.2
  rw [List.concat_eq_append] at hflatten hfits ⊢
  obtain ⟨hmessages, hlast⟩ : before.flatten ++ last = messages ∧ [m] = [message] := by
    refine List.append_inj' ?_ rfl
    rw [← hflatten, List.flatten_append, List.flatten_singleton, List.append_assoc]
  obtain rfl : m = message := List.singleton_inj.1 hlast
  by_cases hnil : last = []
  · subst hnil
    exact Or.inl ⟨before, rfl, (List.append_nil _).symm.trans hmessages, hne.1, hfits.1⟩
  · have hpos : 0 < last.length := List.length_pos_iff.2 hnil
    have hsize : packetSize (last ++ [m]) ≤ maxSize := by
      refine hfits.2 ?_
      rw [List.length_append, List.length_singleton]
      omega
    have hsmaller : packetSize last ≤ packetSize (last ++ [m]) := by
      rw [packetSize_append]
      exact Nat.le_add_right _ _
    refine Or.inr ⟨before, last, rfl, hnil, hsize, ?_, ?_, ?_⟩
    · rw [List.flatten_append, List.flatten_singleton, hmessages]
    · exact List.forall_mem_append.2 ⟨hne.1, List.forall_mem_singleton.2 hnil⟩
    · refine List.forall_mem_append.2 ⟨hfits.1, List.forall_mem_singleton.2 ?_⟩
      exact fun _ => Nat.le_trans hsmaller hsize

/-! ## No cut gets ahead -/

/-- Every cut of the messages has more groups, or as many, of which the last goes back at least as
far as the last of these. -/
def IsLeading (maxSize : Nat) (messages : List Octets) (groups : List (List Octets)) : Prop :=
  ∀ cut, IsCut maxSize messages cut → groups.length < cut.length ∨
    groups.length = cut.length ∧ groups.getLastD [] <:+ cut.getLastD []

lemma isLeading_nil : IsLeading maxSize [] [] := by
  intro cut hcut
  rw [hcut.eq_nil]
  exact Or.inr ⟨rfl, List.suffix_rfl⟩

/-- A message joins the last group. -/
lemma IsLeading.join (h : IsLeading maxSize messages (groups ++ [held])) :
    IsLeading maxSize (messages ++ [message]) (groups ++ [held ++ [message]]) := by
  intro cut hcut
  rcases hcut.concat_cases with ⟨before, rfl, hbefore⟩ | ⟨before, last, rfl, -, -, hbefore⟩
  · have hlead := h before hbefore
    simp only [List.length_append, List.length_singleton] at hlead ⊢
    omega
  · have hlead := h _ hbefore
    simp only [List.length_append, List.length_singleton, List.getLastD_concat] at hlead ⊢
    rcases hlead with hless | ⟨heq, before', hlast⟩
    · exact Or.inl hless
    · refine Or.inr ⟨heq, before', ?_⟩
      rw [← List.append_assoc, hlast]

/-- A message begins a group, because there is none yet or because the message does not fit behind
the last one. -/
lemma IsLeading.begin (h : IsLeading maxSize messages groups)
    (hfull : messages = [] ∨ maxSize < packetSize (groups.getLastD [] ++ [message])) :
    IsLeading maxSize (messages ++ [message]) (groups ++ [[message]]) := by
  intro cut hcut
  rcases hcut.concat_cases with ⟨before, rfl, hbefore⟩ | ⟨before, last, rfl, hne, hfits, hbefore⟩
  · have hlead := h before hbefore
    simp only [List.length_append, List.length_singleton, List.getLastD_concat]
    rcases hlead with hless | ⟨heq, -⟩
    · exact Or.inl (Nat.add_lt_add_right hless 1)
    · exact Or.inr ⟨congrArg (· + 1) heq, List.suffix_rfl⟩
  · have hlead := h _ hbefore
    simp only [List.length_append, List.length_singleton, List.getLastD_concat] at hlead ⊢
    rcases hlead with hless | ⟨heq, hlast⟩
    · have hsuffix : [message] <:+ last ++ [message] := List.suffix_append _ _
      have hle : groups.length + 1 ≤ before.length + 1 := hless
      exact (Nat.lt_or_eq_of_le hle).imp id fun heq => ⟨heq, hsuffix⟩
    · -- The last group of the cut goes back further, so the message does not fit behind it either.
      rcases hfull with rfl | hfull
      · have hnil := hbefore.eq_nil
        simp at hnil
      · have hsuffix : groups.getLastD [] ++ [message] <:+ last ++ [message] := by
          obtain ⟨before', rfl⟩ := hlast
          exact ⟨before', (List.append_assoc _ _ _).symm⟩
        have hsize := packetSize_le_of_isSuffix hsuffix
        omega

/-! ## Packets -/

/-- The groups of the packets, with that of the bundle unless it is empty. -/
def groupsWith (groups : List (List Octets)) (held : List Octets) : List (List Octets) :=
  if held = [] then groups else groups ++ [held]

lemma groupsWith_nil : groupsWith groups [] = groups := if_pos rfl

lemma groupsWith_of_ne_nil (h : held ≠ []) : groupsWith groups held = groups ++ [held] := if_neg h

/-- The packets and the bundle hold groups that no cut of the messages gets ahead of. -/
def IsAhead (maxSize : Nat) (messages sent : List Octets) (b : Bundle) : Prop :=
  ∃ groups held, sent = groups.map packet ∧ b.Holds maxSize held ∧
    (held = [] → messages = []) ∧ IsLeading maxSize messages (groupsWith groups held)

lemma isAhead_open (maxSize : Nat) : IsAhead maxSize [] [] { maxSize } :=
  ⟨[], [], rfl, holds_open maxSize, fun _ => rfl, isLeading_nil⟩

/-- Appending a message leaves no cut ahead. -/
lemma IsAhead.append (h : IsAhead maxSize messages sent b) (message : Octets) :
    IsAhead maxSize (messages ++ [message].filter (!·.isEmpty))
      (sent ++ (b.append message).2.toList) (b.append message).1 := by
  obtain ⟨groups, held, rfl, hb, hempty, hlead⟩ := h
  by_cases hmessage : message = []
  · subst hmessage
    have hsame : messages ++ [([] : Octets)].filter (!·.isEmpty) = messages :=
      List.append_nil messages
    rw [hsame]
    exact ⟨groups, held, List.append_nil _, hb, hempty, hlead⟩
  have hfilter : [message].filter (!·.isEmpty) = [message] := by simp [hmessage]
  rw [hfilter]
  obtain ⟨-, hnone, hb'⟩ | ⟨hne, hfull, hsome, hb'⟩ := hb.append_cases hmessage
  · have hne' : held ++ [message] ≠ [] := List.concat_ne_nil message held
    rw [hnone]
    refine ⟨groups, held ++ [message], List.append_nil _, hb', fun h => absurd h hne', ?_⟩
    rw [groupsWith_of_ne_nil hne']
    by_cases hheld : held = []
    · rw [hheld, groupsWith_nil] at hlead
      rw [hheld]
      exact hlead.begin (Or.inl (hempty hheld))
    · rw [groupsWith_of_ne_nil hheld] at hlead
      exact hlead.join
  · rw [hsome]
    refine ⟨groups ++ [held], [message], by simp, hb', nofun, ?_⟩
    rw [groupsWith_of_ne_nil hne] at hlead
    rw [groupsWith_of_ne_nil (List.cons_ne_nil message [])]
    refine hlead.begin (Or.inr ?_)
    rw [List.getLastD_concat, ← length_packet]
    exact hfull

lemma isAhead_appendAll (maxSize : Nat) (messages : List Octets) :
    IsAhead maxSize (messages.filter (!·.isEmpty)) (appendAll { maxSize } messages).2
      (appendAll { maxSize } messages).1 :=
  appendAll_induction (P := IsAhead maxSize) (fun message h => h.append message)
    (isAhead_open maxSize) messages

/-- When the bundle is closed, there are as many packets as groups that no cut gets ahead of. -/
lemma IsAhead.length_le (h : IsAhead maxSize messages sent b) (hcut : IsCut maxSize messages cut) :
    (sent ++ b.close.toList).length ≤ cut.length := by
  obtain ⟨groups, held, rfl, hb, -, hlead⟩ := h
  have hlength : (groups.map packet ++ b.close.toList).length =
      (groupsWith groups held).length := by
    rw [hb.close_eq]
    by_cases hheld : held = []
    · simp [hheld, groupsWith_nil]
    · simp [hheld, groupsWith_of_ne_nil]
  rw [hlength]
  exact (hlead cut hcut).elim Nat.le_of_lt fun h => Nat.le_of_eq h.1

/-- Messages that may travel in one packet are a group of a cut. -/
lemma isCut_of_isLoad (hgroups : ∀ group ∈ groups, IsLoad maxSize group) :
    IsCut maxSize groups.flatten groups where
  flatten_eq := rfl
  ne_nil group hgroup := (hgroups group hgroup).ne_nil
  fits group hgroup htwo := by
    rw [← length_packet]
    exact (hgroups group hgroup).length_le htwo

/-- Under every bound, the packets of messages that are appended in order are a way to cut them, the
empty ones left out, into consecutive groups that fit a packet or are single messages; and no such
way needs fewer groups.

Whatever has been appended before, a message makes the bundle hand out a packet exactly if neither
is empty and the packet, with the message behind the others, would exceed the bound. -/
theorem packets_fewest (maxSize : Nat) (messages : List Octets) :
    (∃ groups, packets maxSize messages = groups.map packet ∧
      IsCut maxSize (messages.filter (!·.isEmpty)) groups) ∧
    (∀ cut, IsCut maxSize (messages.filter (!·.isEmpty)) cut →
      (packets maxSize messages).length ≤ cut.length) ∧
    ∀ before message, let b := (appendAll { maxSize } before).1
      ∃ held, held <:+ before.filter (!·.isEmpty) ∧ b.Holds maxSize held ∧
        ∀ p, (b.append message).2 = some p ↔ message ≠ [] ∧ held ≠ [] ∧
          maxSize < packetSize (held ++ [message]) ∧ p = packet held := by
  refine ⟨?_, ?_, ?_⟩
  · obtain ⟨groups, hpackets, hgroups, hflatten⟩ := (packed_appendAll maxSize messages).close
    rw [← hflatten]
    exact ⟨groups, hpackets, isCut_of_isLoad hgroups⟩
  · intro cut hcut
    exact (isAhead_appendAll maxSize messages).length_le hcut
  · intro before message b
    obtain ⟨groups, held, -, -, hb, hheld⟩ := packed_appendAll maxSize before
    refine ⟨held, ⟨groups.flatten, hheld⟩, hb, fun p => ?_⟩
    by_cases hmessage : message = []
    · rw [hmessage, append_nil]
      exact iff_of_false nofun fun h => h.1 rfl
    rw [← length_packet]
    obtain ⟨hroom, hnone, -⟩ | ⟨hne, hfull, hsome, -⟩ := hb.append_cases hmessage
    · rw [hnone]
      refine iff_of_false nofun ?_
      rintro ⟨-, hne, hfull, -⟩
      have hle := hroom.resolve_left hne
      omega
    · rw [hsome, Option.some.injEq]
      exact ⟨fun h => ⟨hmessage, hne, hfull, h.symm⟩, fun h => h.2.2.2.symm⟩

/-- The sample messages need four packets under a bound of 28 octets: the long one stands between
two that would fit a packet together. -/
theorem packets_fewest_sample :
    (packets 28 sampleMessages).length = 4 ∧
    ∀ cut, IsCut 28 (sampleMessages.filter (!·.isEmpty)) cut → 4 ≤ cut.length := by
  have hlength : (packets 28 sampleMessages).length = 4 := by decide
  obtain ⟨-, hfewest, -⟩ := packets_fewest 28 sampleMessages
  rw [hlength] at hfewest
  exact ⟨hlength, hfewest⟩

end Bundle

end OscRemote
