import PaddleLink.Proofs.Wire.RoundTrip

namespace PaddleLink

open Json

theorem MessageKind.decode_toTree (k : MessageKind) : MessageKind.decode (Value.string k.name).toTree = .ok k := by
  cases k <;> rfl

theorem Parcel.legible (p : Parcel) : p.toJson.Legible := by
  rw [Parcel.toJson, legible_object]
  simp [legible_string]

theorem Parcel.decode_toTree (p : Parcel) : Parcel.decode p.toJson.toTree = .ok p := by
  apply decode_object
  · simp
  · exact reads_seq (reads_map _ (reads_field rfl p.kind.decode_toTree)) (reads_field rfl (text_toTree p.payload))

/-- The frame of a message holds its kind and its text, whatever may be in it. -/
theorem run_writeMessage (m : Message) : Parcel.decode.run (writeMessage m) = .ok ⟨m.kind, m.toJson.toText⟩ :=
  run_toText (Parcel.legible _) (Parcel.decode_toTree _)

theorem Heartbeat.legible (h : Heartbeat) : h.toJson.Legible := by
  rw [Heartbeat.toJson, legible_object]
  simp [SessionId.toJson, ActorId.toJson, legible_string, legible_uint64]

theorem Heartbeat.decode_toTree (h : Heartbeat) : Heartbeat.decode h.toJson.toTree = .ok h := by
  apply decode_object
  · simp
  · exact reads_seq (reads_seq (reads_map _ (reads_field rfl h.session.decode_toTree))
      (reads_field rfl h.player.decode_toTree)) (reads_field rfl (uint64_toTree h.time))

def Message.floats : Message → List Float
  | .snapshot s => (s.objects.getD []).flatMap GameObject.floats
  | .heartbeat _ => []

theorem Message.forall_floats {P : Float → Prop} {s : Snapshot} (h : ∀ x ∈ (Message.snapshot s).floats, P x) :
    ∀ os, s.objects = some os → ∀ o ∈ os, ∀ x ∈ o.floats, P x := by
  intro os hos o ho x hx
  apply h
  rw [floats, hos, Option.getD_some]
  exact List.mem_flatMap.mpr ⟨o, ho, hx⟩

theorem Message.legible {m : Message} (h : ∀ x ∈ m.floats, ReadsBack x) : m.toJson.Legible := by
  cases m with
  | snapshot s => exact Snapshot.legible (forall_floats h)
  | heartbeat b => exact b.legible

theorem Message.decode_toTree {m : Message} (h : ∀ x ∈ m.floats, x.isFinite = true) :
    Message.decode m.kind m.toJson.toTree = .ok m := by
  cases m with
  | snapshot s =>
    show (Snapshot.decode s.toJson.toTree).map Message.snapshot = _
    rw [Snapshot.decode_toTree (forall_floats h)]
    rfl
  | heartbeat b =>
    show (Heartbeat.decode b.toJson.toTree).map Message.heartbeat = _
    rw [b.decode_toTree]
    rfl

theorem Message.run_toText {m : Message} (h : ∀ x ∈ m.floats, x.isFinite = true ∧ ReadsBack x) :
    (Message.decode m.kind).run m.toJson.toText = .ok m :=
  Json.run_toText (legible fun x hx => (h x hx).2) (decode_toTree fun x hx => (h x hx).1)

theorem Message.kind_of_decode {k : MessageKind} {t : Tree} {m : Message} (h : Message.decode k t = .ok m) :
    m.kind = k := by
  cases k with
  | snapshot =>
    obtain ⟨s, -, rfl⟩ := map_ok h
    rfl
  | heartbeat =>
    obtain ⟨b, -, rfl⟩ := map_ok h
    rfl

theorem readMessage_of_legible {m : Message} (h : ∀ x ∈ m.floats, x.isFinite = true ∧ ReadsBack x) :
    readMessage (writeMessage m) = .ok m := by
  simp only [readMessage, run_writeMessage, Message.run_toText h]

/-- The kind of a message is not mistaken, even where its numbers are not legible. -/
theorem kind_of_readMessage {m m' : Message} (h : readMessage (writeMessage m) = .ok m') : m'.kind = m.kind := by
  simp only [readMessage, run_writeMessage] at h
  split at h
  · rename_i payload hrun
    cases h
    exact Message.kind_of_decode (decode_of_run hrun)
  · cases h

/-- A message with legible numbers is read from its frame as it was. So two of them never share a frame, and a message
is never taken for one of the other kind. -/
theorem readMessage_writeMessage :
    (∀ m : Message, (∀ x ∈ m.floats, x.isFinite = true ∧ ReadsBack x) → readMessage (writeMessage m) = .ok m) ∧
    (∀ m m' : Message, (∀ x ∈ m.floats, x.isFinite = true ∧ ReadsBack x) →
      (∀ x ∈ m'.floats, x.isFinite = true ∧ ReadsBack x) → m ≠ m' → writeMessage m ≠ writeMessage m') ∧
    (∀ m m' : Message, m.kind ≠ m'.kind →
      writeMessage m ≠ writeMessage m' ∧ readMessage (writeMessage m) ≠ .ok m') := by
  refine ⟨fun m h => readMessage_of_legible h, ?_, ?_⟩
  · intro m m' h h' hne hsame
    have hread : (Except.ok m : Except FrameError Message) = .ok m' := by
      calc Except.ok m = readMessage (writeMessage m) := (readMessage_of_legible h).symm
        _ = readMessage (writeMessage m') := by rw [hsame]
        _ = .ok m' := readMessage_of_legible h'
    exact hne (Except.ok.inj hread)
  · intro m m' hkind
    constructor
    · intro hsame
      have hparcel := run_writeMessage m
      rw [hsame, run_writeMessage m'] at hparcel
      have hkinds : m'.kind = m.kind := congrArg Parcel.kind (Except.ok.inj hparcel)
      exact hkind hkinds.symm
    · intro hread
      exact hkind (kind_of_readMessage hread).symm

/-- A snapshot of an object and the same snapshot with no objects in it, by a player whose name needs escapes. -/
theorem readMessage_writeMessage_snapshot :
    let told (os : Option (List GameObject)) : Message :=
      .snapshot ⟨⟨"\"s\\\n"⟩, [⟨.down, 65535, .two⟩], os, ⟨"ä\u0001𝄞"⟩, 18446744073709551615⟩
    let full := told (some [⟨3, 1.5, 1.5, 1.5, 1.5, 1.5, 1.5, 4, 5⟩])
    let empty := told (some [])
    readMessage (writeMessage full) = .ok full ∧ readMessage (writeMessage empty) = .ok empty ∧
      writeMessage empty ≠ writeMessage (told none) := by
  intro told full empty
  have hfull : ∀ x ∈ full.floats, x.isFinite = true ∧ ReadsBack x := by
    intro x hx
    have hvalue : x = 1.5 := by simpa [full, told, Message.floats, GameObject.floats] using hx
    subst hvalue
    exact ⟨by decide +kernel, readsBack_1_5⟩
  have hplain : ∀ os, os.getD [] = [] → ∀ x ∈ (told os).floats, x.isFinite = true ∧ ReadsBack x := by
    intro os hos x hx
    simp [told, Message.floats, hos] at hx
  have hdifferent : empty ≠ told none := by simp [empty, told]
  exact ⟨readMessage_writeMessage.1 full hfull, readMessage_writeMessage.1 empty (hplain _ rfl),
    readMessage_writeMessage.2.1 _ _ (hplain _ rfl) (hplain _ rfl) hdifferent⟩

end PaddleLink
