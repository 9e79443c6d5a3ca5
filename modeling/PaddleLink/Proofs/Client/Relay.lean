import PaddleLink.Proofs.Client.Inputs
import PaddleLink.Proofs.Client.Speech
import PaddleLink.Proofs.Paddles.Held
import PaddleLink.Proofs.Wire.Envelopes
import PaddleLink.Proofs.Wire.Messages

namespace PaddleLink

open Json

/-- However the keys were used, a slot gets no more than its two directions. -/
theorem length_inputsFor_keyboardAfter_le (typed : List KeyEvent) (slot : Slot) :
    ((keyboardAfter typed).inputsFor slot).length ≤ 2 :=
  Keyboard.length_inputsFor_le (Keyboard.nodup_foldl_after List.nodup_nil typed) slot

variable {s : NetworkSession} {typed : List KeyEvent} {objects : List GameObject} {time : UInt64} {m : Snapshot}

/-- The players make snapshots, those who only watch do not. -/
theorem isSome_snapshot?_iff (hopen : s.state ≠ .closed) (b : Keyboard) :
    (snapshot? (.network s) b objects time).isSome ↔ s.role = .host ∨ s.role = .peer := by
  rw [snapshot?_network, if_neg hopen, Option.isSome_map]
  cases s.role <;> simp [Role.keyboardSlot]

/-- A snapshot holds the held keys of one slot, and at most the objects that it was made of. -/
theorem parts_of_snapshot? {b : Keyboard} (h : snapshot? (.network s) b objects time = some m) :
    (∃ slot, m.inputs = b.inputsFor slot) ∧ m.objects.getD [] ⊆ objects ∧ (m.objects.getD []).length ≤ objects.length := by
  rw [snapshot?_network] at h
  split at h
  · cases h
  · obtain ⟨slot, -, rfl⟩ := Option.map_eq_some_iff.mp h
    refine ⟨⟨slot, rfl⟩, ?_⟩
    simp only
    split <;> simp

theorem violation?_of_snapshot? (hcount : objects.length ≤ maxObjects)
    (h : snapshot? (.network s) (keyboardAfter typed) objects time = some m) : m.violation? = none := by
  obtain ⟨⟨slot, hinputs⟩, -, hobjects⟩ := parts_of_snapshot? h
  have hkeys := length_inputsFor_keyboardAfter_le typed slot
  have hfewInputs : ¬m.inputs.length > maxInputs := by
    rw [hinputs, maxInputs]
    omega
  have hfewObjects : ¬(m.objects.getD []).length > maxObjects := by omega
  rw [Snapshot.violation?, if_neg hfewInputs, if_neg hfewObjects]

/-- An envelope that holds an event gives it at its place, whatever is before and behind it. -/
theorem readFrame_around_seal {e : Event} (he : e.seal.event? = some e) (before after : List Envelope) :
    ∃ xs ys, readFrame (writeEnvelopes before) = .ok xs ∧ readFrame (writeEnvelopes after) = .ok ys ∧
      readFrame (writeEnvelopes (before ++ e.seal :: after)) = .ok (xs ++ e :: ys) := by
  refine ⟨_, _, readFrame_writeEnvelopes before, readFrame_writeEnvelopes after, ?_⟩
  rw [readFrame_writeEnvelopes, List.filterMap_append, List.filterMap_cons_some he]

/-- The sender of a snapshot and its receivers agree on it. The server reads the snapshot that was made, and if it
publishes it as a tick, every client reads that very snapshot from the frame, alone, among other events, and among
envelopes of any kind, which lose nothing by it. -/
theorem snapshot_survives_relay (s : NetworkSession) (hopen : s.state ≠ .closed) (typed : List KeyEvent)
    (objects : List GameObject) (hcount : objects.length ≤ maxObjects)
    (hfloats : ∀ o ∈ objects, ∀ x ∈ o.floats, x.isFinite = true ∧ ReadsBack x) (time : UInt64) :
    ((snapshot? (.network s) (keyboardAfter typed) objects time).isSome ↔ s.role = .host ∨ s.role = .peer) ∧
    ∀ m, snapshot? (.network s) (keyboardAfter typed) objects time = some m →
      m.inputs.length ≤ maxInputs ∧ m.violation? = none ∧
      readMessage (writeMessage (.snapshot m)) = .ok (.snapshot m) ∧
      readFrame (writeFrame [.tick m]) = .ok [.tick m] ∧
      (∀ before after : List Event, ∃ xs ys,
        readFrame (writeFrame before) = .ok xs ∧ readFrame (writeFrame after) = .ok ys ∧
        readFrame (writeFrame (before ++ .tick m :: after)) = .ok (xs ++ .tick m :: ys)) ∧
      ∀ before after : List Envelope, ∃ xs ys,
        readFrame (writeEnvelopes before) = .ok xs ∧ readFrame (writeEnvelopes after) = .ok ys ∧
        readFrame (writeEnvelopes (before ++ (Event.tick m).seal :: after)) = .ok (xs ++ .tick m :: ys) := by
  refine ⟨isSome_snapshot?_iff hopen _, fun m hm => ?_⟩
  obtain ⟨⟨slot, hinputs⟩, hsubset, -⟩ := parts_of_snapshot? hm
  have hkeys : m.inputs.length ≤ maxInputs := by
    rw [hinputs]
    exact (length_inputsFor_keyboardAfter_le typed slot).trans (by decide)
  have hvalid := violation?_of_snapshot? hcount hm
  have hnumbers : ∀ x ∈ (m.objects.getD []).flatMap GameObject.floats, x.isFinite = true ∧ ReadsBack x := by
    intro x hx
    obtain ⟨o, ho, hxo⟩ := List.mem_flatMap.mp hx
    exact hfloats o (hsubset ho) x hxo
  have hseal : (Event.tick m).seal.event? = some (.tick m) := Event.event?_seal hvalid hnumbers
  refine ⟨hkeys, hvalid, readMessage_of_legible hnumbers, ?_, ?_, readFrame_around_seal hseal⟩
  · refine readFrame_of_usable ?_ ?_
    · intro e he
      rw [List.mem_singleton.mp he]
      exact hvalid
    · intro e he
      rw [List.mem_singleton.mp he]
      exact hnumbers
  · intro before after
    have haround := readFrame_around_seal hseal (before.map Event.seal) (after.map Event.seal)
    simpa only [writeFrame_eq_writeEnvelopes, List.map_append, List.map_cons] using haround

/-- A host with two held keys and a ball, between an event that is dropped and one that is not. -/
theorem snapshot_survives_relay_host :
    let s : NetworkSession := ⟨⟨"a"⟩, .host, .pending, [], ⟨⟨"b"⟩⟩⟩
    let typed := [KeyEvent.press .w, .press .arrowUp, .press .s, .press .w]
    let ball : GameObject := ⟨3, 1.5, 1.5, 1.5, 1.5, 1.5, 1.5, 4, 5⟩
    let m : Snapshot := ⟨⟨"a"⟩, [⟨.up, 0, .one⟩, ⟨.down, 0, .one⟩], some [ball], ⟨"b"⟩, 7⟩
    snapshot? (.network s) (keyboardAfter typed) [ball] 7 = some m ∧
      readMessage (writeMessage (.snapshot m)) = .ok (.snapshot m) ∧
      ∃ xs ys, readFrame (writeEnvelopes [⟨"tick", "[[[["⟩]) = .ok xs ∧
        readFrame (writeEnvelopes [⟨"tick", m.toJson.toText⟩]) = .ok ys ∧
        readFrame (writeEnvelopes [⟨"tick", "[[[["⟩, (Event.tick m).seal, ⟨"tick", m.toJson.toText⟩]) =
          .ok (xs ++ .tick m :: ys) := by
  intro s typed ball m
  have hfloats : ∀ o ∈ [ball], ∀ x ∈ o.floats, x.isFinite = true ∧ ReadsBack x := by
    intro o ho x hx
    rw [List.mem_singleton.mp ho] at hx
    have hvalue : x = 1.5 := by simpa [ball, GameObject.floats] using hx
    subst hvalue
    exact ⟨by decide +kernel, readsBack_1_5⟩
  have hmade : snapshot? (.network s) (keyboardAfter typed) [ball] 7 = some m := rfl
  obtain ⟨-, -, hread, -, -, haround⟩ :=
    (snapshot_survives_relay s (by decide) typed [ball] (by decide) hfloats 7).2 m hmade
  exact ⟨hmade, hread, haround [⟨"tick", "[[[["⟩] [⟨"tick", m.toJson.toText⟩]⟩

end PaddleLink
