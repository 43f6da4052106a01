import Mathlib.Data.List.Induction
import Mathlib.Tactic.Lemma
import OscRemote.Frame

/-!
# Reading frames

A message shorter than `lengthLimit` is read off the front of its frame, whatever follows.  So
frames that were written one after the other are read back in order, and what stands behind them is
read as it would be alone.

Reading loses nothing, whatever it is given: the frames of what was read, with what is left, are
what was given (`Frame.frames_read_append`), and what was read is shorter than `lengthLimit`.  From
this follows that longer messages are not read back, and what is read of frames that were cut off
somewhere.
-/

namespace OscRemote

-- Powers are those that numbers come with, whatever else is in scope.
attribute [local instance (2000)] instPowNat

/-- The first length that does not fit in the four octets in front of a frame. -/
def lengthLimit : Nat := 256 ^ lengthPrefixSize

example : lengthLimit = 2 ^ 32 := by decide

/-! ## Numbers in octets -/

namespace Octets

/-- The number that octets spell fits in as many. -/
lemma ofBigEndian_lt (bs : Octets) : ofBigEndian bs < 256 ^ bs.length := by
  induction bs using List.reverseRecOn with
  | nil => exact Nat.one_pos
  | append_singleton bs b ih =>
    have hb : b.toNat < 256 := b.toNat_lt
    rw [ofBigEndian_append_singleton, List.length_append, List.length_singleton, Nat.pow_succ]
    omega

/-- The number that octets spell is written in as many as these octets. -/
lemma bigEndian_ofBigEndian (bs : Octets) : bigEndian bs.length (ofBigEndian bs) = bs := by
  induction bs using List.reverseRecOn with
  | nil => rfl
  | append_singleton bs b ih =>
    have hb : b.toNat < 256 := b.toNat_lt
    have hhead : (256 * ofBigEndian bs + b.toNat) / 256 = ofBigEndian bs := by omega
    have hlast : UInt8.ofNat (256 * ofBigEndian bs + b.toNat) = b := by
      rw [← UInt8.toNat_inj, UInt8.toNat_ofNat']
      omega
    rw [ofBigEndian_append_singleton, List.length_append, List.length_singleton, bigEndian, hhead,
      ih, hlast]

lemma of_readNat? {width n : Nat} {bs rest : Octets} (h : readNat? width bs = some (n, rest)) :
    bs = bigEndian width n ++ rest ∧ n < 256 ^ width := by
  obtain ⟨⟨head, rest'⟩, htake, heq⟩ := Option.map_eq_some_iff.1 h
  obtain ⟨rfl, rfl⟩ := Prod.mk.inj heq
  obtain ⟨rfl, rfl⟩ := eq_append_of_take? htake
  rw [bigEndian_ofBigEndian]
  exact ⟨rfl, ofBigEndian_lt head⟩

end Octets

/-! ## Frames -/

@[simp] lemma length_framed (message : Octets) :
    (framed message).length = lengthPrefixSize + message.length := by
  rw [framed, List.length_append, Octets.length_bigEndian]

@[simp] lemma frames_nil : frames [] = [] := rfl

@[simp] lemma frames_cons (message : Octets) (messages : List Octets) :
    frames (message :: messages) = framed message ++ frames messages := rfl

@[simp] lemma frames_append (first second : List Octets) :
    frames (first ++ second) = frames first ++ frames second := List.flatMap_append

/-- Frames are written one after the other also by adding each to those before it. -/
lemma foldl_framed (buffer : Octets) (messages : List Octets) :
    messages.foldl (fun buffer message => buffer ++ framed message) buffer =
      buffer ++ frames messages := by
  induction messages generalizing buffer with
  | nil => exact (List.append_nil buffer).symm
  | cons message messages ih => rw [List.foldl_cons, ih, frames_cons, List.append_assoc]

namespace Frame

lemma readOne?_framed_append {message : Octets} (h : message.length < lengthLimit)
    (rest : Octets) : readOne? (framed message ++ rest) = some (message, rest) := by
  have hlength : message.length % 256 ^ lengthPrefixSize = message.length := Nat.mod_eq_of_lt h
  rw [readOne?, framed, List.append_assoc, Octets.readNat?_bigEndian, Option.bind_some, hlength]
  exact Octets.take?_append message rest

/-- Frames are read back, and what is behind them is read as it would be alone. -/
lemma read_frames_append {messages : List Octets}
    (h : ∀ message ∈ messages, message.length < lengthLimit) (rest : Octets) :
    read (frames messages ++ rest) = (messages ++ (read rest).1, (read rest).2) := by
  induction messages with
  | nil => rfl
  | cons message messages ih =>
    have hone := readOne?_framed_append (h message List.mem_cons_self) (frames messages ++ rest)
    rw [frames_cons, List.append_assoc, read]
    split
    case h_1 hnone => cases hnone.symm.trans hone
    case h_2 m rest' hsome =>
      obtain ⟨rfl, rfl⟩ := Prod.mk.inj (Option.some.inj (hsome.symm.trans hone))
      rw [ih fun m hm => h m (List.mem_cons_of_mem _ hm)]
      rfl

/-- Of nothing, nothing is read. -/
lemma read_nil : read [] = ([], []) := by
  rw [read]
  rfl

lemma read_frames {messages : List Octets}
    (h : ∀ message ∈ messages, message.length < lengthLimit) :
    read (frames messages) = (messages, []) := by
  have hread := read_frames_append h []
  rwa [List.append_nil, read_nil, List.append_nil] at hread

/-! ## What was read -/

/-- What one message was read from is its frame, and what is left. -/
lemma of_readOne? {bs message rest : Octets} (h : readOne? bs = some (message, rest)) :
    bs = framed message ++ rest ∧ message.length < lengthLimit := by
  obtain ⟨⟨length, rest'⟩, hlength, htake⟩ := Option.bind_eq_some_iff.1 h
  obtain ⟨rfl, rfl⟩ := Octets.eq_append_of_take? htake
  obtain ⟨rfl, hlt⟩ := Octets.of_readNat? hlength
  rw [framed, List.append_assoc]
  exact ⟨rfl, hlt⟩

/-- Whatever is read, the frames of the messages that come of it, with what is left, are what it was
read from. -/
lemma frames_read_append (bs : Octets) : frames (read bs).1 ++ (read bs).2 = bs := by
  fun_induction read bs with
  | case1 => rfl
  | case2 bs message rest hone messages rest' hread ih =>
    rw [hread] at ih
    show framed message ++ frames messages ++ rest' = bs
    rw [List.append_assoc, ih, (of_readOne? hone).1]

lemma length_lt_of_mem_read {bs message : Octets} (h : message ∈ (read bs).1) :
    message.length < lengthLimit := by
  fun_induction read bs with
  | case1 => cases h
  | case2 bs first rest hone messages rest' hread ih =>
    rw [hread] at ih
    rcases List.mem_cons.1 h with rfl | h
    · exact (of_readOne? hone).2
    · exact ih h

/-- Of the beginning of frames, no message is read but those that the frames were written for. -/
lemma read_isPrefix_of_frames {messages : List Octets} {part : Octets}
    (h : ∀ message ∈ messages, message.length < lengthLimit) (hpart : part <+: frames messages) :
    (read part).1 <+: messages := by
  obtain ⟨missing, hmissing⟩ := hpart
  have hshort : ∀ message ∈ (read part).1, message.length < lengthLimit :=
    fun _ => length_lt_of_mem_read
  have hread := read_frames_append hshort ((read part).2 ++ missing)
  rw [← List.append_assoc, frames_read_append, hmissing, read_frames h] at hread
  exact ⟨_, (congrArg Prod.fst hread).symm⟩

/-- Every message whose frame is complete is read. -/
lemma isPrefix_read_of_frames {first : List Octets} {part : Octets}
    (h : ∀ message ∈ first, message.length < lengthLimit) (hpart : frames first <+: part) :
    first <+: (read part).1 := by
  obtain ⟨rest, rfl⟩ := hpart
  rw [read_frames_append h]
  exact List.prefix_append _ _

/-- Frames can be written by adding each to a buffer.  They are read back as the messages that they
were written for exactly if every one of these is shorter than `lengthLimit`, and then nothing is
left.  Of frames that were cut off anywhere, those messages are read whose frames are complete: they
are the longest beginning of the messages of which this holds. -/
theorem read_frames_iff (messages : List Octets) :
    messages.foldl (fun buffer message => buffer ++ framed message) [] = frames messages ∧
    (read (frames messages) = (messages, []) ↔
      ∀ message ∈ messages, message.length < lengthLimit) ∧
    ((read (frames messages)).1 = messages ↔
      ∀ message ∈ messages, message.length < lengthLimit) ∧
    ((∀ message ∈ messages, message.length < lengthLimit) →
      ∀ part, part <+: frames messages →
        (read part).1 <+: messages ∧ frames (read part).1 <+: part ∧
        ∀ first, first <+: messages → frames first <+: part → first <+: (read part).1) := by
  have hshort (h : (read (frames messages)).1 = messages) :
      ∀ message ∈ messages, message.length < lengthLimit := by
    intro message hmem
    rw [← h] at hmem
    exact length_lt_of_mem_read hmem
  refine ⟨foldl_framed [] messages, ⟨?_, read_frames⟩, ⟨hshort, ?_⟩, ?_⟩
  · intro h
    exact hshort (congrArg Prod.fst h)
  · intro h
    rw [read_frames h]
  · intro h part hpart
    refine ⟨read_isPrefix_of_frames h hpart, ⟨(read part).2, frames_read_append part⟩, ?_⟩
    intro first hfirst hcomplete
    exact isPrefix_read_of_frames (fun message hmem => h message (hfirst.mem hmem)) hcomplete

/-- Three messages, one of them empty, of which the last is cut off in its length; and a message
that is too long. -/
theorem read_frames_iff_interrupted :
    (∀ message ∈ ([[47, 97], [], [47]] : List Octets), message.length < lengthLimit) ∧
    [0, 0, 0, 2, 47, 97, 0, 0, 0, 0, 0, 0] <+: frames [[47, 97], [], [47]] ∧
    [[47, 97], []] <+: (read [0, 0, 0, 2, 47, 97, 0, 0, 0, 0, 0, 0]).1 ∧
    (read [0, 0, 0, 2, 47, 97, 0, 0, 0, 0, 0, 0]).1 <+: [[47, 97], [], [47]] ∧
    (read (frames [List.replicate lengthLimit 0])).1 ≠ [List.replicate lengthLimit 0] := by
  have hshort : ∀ message ∈ ([[47, 97], [], [47]] : List Octets), message.length < lengthLimit := by
    decide
  have hpart : [0, 0, 0, 2, 47, 97, 0, 0, 0, 0, 0, 0] <+: frames [[47, 97], [], [47]] := by decide
  obtain ⟨-, -, -, hcut⟩ := read_frames_iff [[47, 97], [], [47]]
  obtain ⟨hread, -, hlongest⟩ := hcut hshort _ hpart
  refine ⟨hshort, hpart, hlongest _ (by decide) (by decide), hread, ?_⟩
  intro h
  have hlt := (read_frames_iff [List.replicate lengthLimit 0]).2.2.1.1 h _ List.mem_cons_self
  rw [List.length_replicate] at hlt
  exact Nat.lt_irrefl _ hlt

end Frame

end OscRemote
