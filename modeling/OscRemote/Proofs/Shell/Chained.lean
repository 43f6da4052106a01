import OscRemote.Proofs.Shell.Failure
import OscRemote.Proofs.Text.Words

/-!
# Lines behind one another

Two lines can be written as one, with a blank between them.  How the words of the first are read
with those of the second behind them is known from its last verb (`Verb.extends_of_readWords`):
behind `send` there are only more words for it, and behind any other verb a line begins anew.

Verbs are carried out one by one, so a line that is cut between two verbs does what its parts do one
after the other, unless something stops the first part (`Client.runVerbs_append`).
-/

namespace OscRemote

namespace Verb

lemma readLine_append_blank (line more : String) :
    readLine (line ++ " " ++ more) = readWords (Text.words line ++ Text.words more) := by
  rw [readLine, Text.words_append_blank]

end Verb

/-! ## Running -/

namespace Client

variable {c : Client}

/-- Verbs behind a row that nothing stops are carried out by the client that it leaves. -/
lemma runVerbs_append {vs : List Verb} {texts : List String}
    (h : (c.runVerbs vs).ending = .reports texts) (us : List Verb) :
    c.runVerbs (vs ++ us) =
      { client := ((c.runVerbs vs).client.runVerbs us).client
        requests := (c.runVerbs vs).requests ++ ((c.runVerbs vs).client.runVerbs us).requests
        ending := texts.foldr LineEnd.after ((c.runVerbs vs).client.runVerbs us).ending } := by
  induction vs generalizing c texts with
  | nil =>
    obtain rfl := LineEnd.reports.inj h
    rfl
  | cons v vs ih =>
    have hv : v ≠ .quit := by
      rintro rfl
      cases h
    rw [runVerbs_cons hv] at h
    rw [List.cons_append, runVerbs_cons hv, runVerbs_cons hv]
    cases hperform : v.perform c with
    | error cause =>
      rw [hperform] at h
      cases h
    | ok outcome =>
      rw [hperform] at h
      dsimp only at h ⊢
      cases hending : (outcome.client.runVerbs vs).ending with
      | reports rest =>
        rw [hending] at h
        obtain rfl := LineEnd.reports.inj h
        rw [ih hending, List.append_assoc, List.foldr_cons]
      | quit | failed =>
        rw [hending] at h
        cases h

end Client

/-- Two lines as one.  If the first has no `send`, then what is read of the second follows what is
read of the first, and a fault of the second is one of both.  If the first has a `send`, that is its
last verb; the words of the second line then belong to it, as its values if it has its tags, and
else the first as the tags.

So if nothing in the first line fails or leaves the shell, and the second can be read, the client
does for both as one what it does for one after the other. -/
theorem Verb.chained_line_composes (line more : String) {vs : List Verb}
    (h : readLine line = .ok vs) :
    ((∀ v ∈ vs, v.takesAll = false) →
      (∀ us, readLine more = .ok us → readLine (line ++ " " ++ more) = .ok (vs ++ us)) ∧
      (∀ fault, readLine more = .error fault →
        readLine (line ++ " " ++ more) = .error fault) ∧
      ∀ (c : Client) texts us, (c.runLine line).ending = .reports texts →
        readLine more = .ok us →
        c.runLine (line ++ " " ++ more) =
          { client := ((c.runLine line).client.runLine more).client
            requests := (c.runLine line).requests ++
              ((c.runLine line).client.runLine more).requests
            ending := texts.foldr LineEnd.after
              ((c.runLine line).client.runLine more).ending }) ∧
    ∀ kind address tags values, .send kind address tags values ∈ vs →
      ∃ us, vs = us ++ [.send kind address tags values] ∧ (∀ u ∈ us, u.takesAll = false) ∧
        (tags ≠ "" → address :: tags :: values <:+ Text.words line ∧
          readLine (line ++ " " ++ more) =
            .ok (us ++ [.send kind address tags (values ++ Text.words more)])) ∧
        (tags = "" → [address] <:+ Text.words line ∧ values = [] ∧
          readLine (line ++ " " ++ more) =
            .ok (us ++ [.send kind address ((Text.words more).head?.getD "")
              (Text.words more).tail])) := by
  have hextends := extends_of_readWords h
  refine ⟨fun hvs => ?_, fun kind address tags values hsend => ?_⟩
  · have hread : readLine (line ++ " " ++ more) = (readLine more).map (vs ++ ·) := by
      rw [readLine_append_blank, hextends.of_not_takesAll hvs, readLine]
    refine ⟨fun us hus => ?_, fun fault hfault => ?_, fun c texts us hreports hus => ?_⟩
    · rw [hread, hus]
      rfl
    · rw [hread, hfault]
      rfl
    · have hfirst : c.runLine line = c.runVerbs vs := by rw [Client.runLine, h]
      have hsecond (d : Client) : d.runLine more = d.runVerbs us := by rw [Client.runLine, hus]
      have hboth : c.runLine (line ++ " " ++ more) = c.runVerbs (vs ++ us) := by
        rw [Client.runLine, hread, hus]
        rfl
      rw [hfirst] at hreports ⊢
      rw [hboth, hsecond, Client.runVerbs_append hreports]
  · obtain ⟨us, rest, hvs, hus, rfl, rfl, hrest, hmore⟩ := hextends.of_send_mem hsend
    have hread := hmore (Text.words more)
    rw [← readLine_append_blank] at hread
    refine ⟨us, hvs, hus, fun htags => ?_, fun htags => ?_⟩
    · cases rest with
      | nil => exact absurd rfl htags
      | cons tag rest => exact ⟨hrest, hread⟩
    · cases rest with
      | nil => exact ⟨hrest, rfl, hread⟩
      | cons tag rest =>
        -- A word of a line is not empty.
        have htag : tag ∈ Text.words line := hrest.subset (by simp)
        exact absurd htags (Text.isWord_of_mem_words htag).ne_empty

/-- A line that goes on with one whose last verb fails when it is carried out, and with one that
cannot be read; and words behind `send` that would be verbs by themselves. -/
theorem Verb.chained_line_composes_sample :
    readLine "bundle start load" = .ok [.bundleStart, .load] ∧
    readLine ("bundle start load" ++ " " ++ "mute maybe") = .error (.notFlag "maybe") ∧
    (Client.datagramClient.runLine ("bundle start load" ++ " " ++ "mute 1 send udp /x i")).client =
      ((Client.datagramClient.runLine "bundle start load").client.runLine
        "mute 1 send udp /x i").client ∧
    (Client.datagramClient.runLine ("bundle start load" ++ " " ++ "mute 1 send udp /x i")).ending =
      .failed (.input (.missingValue 'i')) ∧
    readLine ("load send udp /cue ,is 3" ++ " " ++ "unload quit") =
      .ok [.load, .send .datagram "/cue" ",is" ["3", "unload", "quit"]] := by
  have hfirst : readLine "bundle start load" = .ok [.bundleStart, .load] := by decide +kernel
  have hsend : readLine "load send udp /cue ,is 3" =
      .ok [.load, .send .datagram "/cue" ",is" ["3"]] := by decide +kernel
  have hfault : readLine "mute maybe" = .error (.notFlag "maybe") := by decide +kernel
  have hsecond : readLine "mute 1 send udp /x i" = .ok [.mute true, .send .datagram "/x" "i" []] := by
    decide +kernel
  have hreports : (Client.datagramClient.runLine "bundle start load").ending =
      .reports ["Bundle started", "Load sent"] := by decide +kernel
  obtain ⟨hclosed, -⟩ := chained_line_composes "bundle start load" "mute maybe" hfirst
  obtain ⟨hclosed', -⟩ := chained_line_composes "bundle start load" "mute 1 send udp /x i" hfirst
  obtain ⟨-, htaking⟩ := chained_line_composes "load send udp /cue ,is 3" "unload quit" hsend
  obtain ⟨-, hfaults, -⟩ := hclosed (by decide)
  obtain ⟨-, -, hruns⟩ := hclosed' (by decide)
  obtain ⟨us, hus, -, hvalues, -⟩ := htaking .datagram "/cue" ",is" ["3"] (by decide)
  obtain rfl : [.load] = us := List.append_cancel_right hus
  obtain ⟨-, htaken⟩ := hvalues (by decide)
  rw [(by decide +kernel : Text.words "unload quit" = ["unload", "quit"])] at htaken
  refine ⟨hfirst, hfaults _ hfault, ?_, ?_, htaken⟩
  · rw [hruns _ _ _ hreports hsecond]
  · rw [hruns _ _ _ hreports hsecond]
    decide +kernel

end OscRemote
