import PaddleLink.Proofs.Wire.Schema

namespace PaddleLink

open Json

theorem legible_uint8 (n : UInt8) : (Value.integer n.toNat).Legible :=
  legible_natCast (Nat.lt_trans n.toNat_lt (by decide))

theorem legible_uint16 (n : UInt16) : (Value.integer n.toNat).Legible :=
  legible_natCast (Nat.lt_trans n.toNat_lt (by decide))

theorem legible_uint32 (n : UInt32) : (Value.integer n.toNat).Legible :=
  legible_natCast (Nat.lt_trans n.toNat_lt (by decide))

theorem legible_uint64 (n : UInt64) : (Value.integer n.toNat).Legible :=
  legible_natCast n.toNat_lt

theorem legible_string (s : String) : (Value.string s).Legible :=
  trivial

theorem legible_map {α : Type} {f : α → Value} (as : List α) (h : ∀ a ∈ as, (f a).Legible) :
    (Value.array (as.map f)).Legible := by
  rw [legible_array]
  intro v hv
  obtain ⟨a, ha, rfl⟩ := List.mem_map.mp hv
  exact h a ha

theorem legible_memberIfSome {α : Type} {f : α → Value} (name : String) {a : Option α}
    (h : ∀ b, a = some b → (f b).Legible) : ∀ m ∈ memberIfSome name f a, m.2.Legible := by
  intro m hm
  cases a with
  | none => exact (List.not_mem_nil hm).elim
  | some b =>
    cases List.mem_singleton.mp hm
    exact h b rfl

theorem Player.legible (p : Player) : p.toJson.Legible := by
  rw [Player.toJson, legible_object]
  simp [ActorId.toJson, Slot.toJson, legible_string, legible_uint8]

theorem Input.legible (i : Input) : i.toJson.Legible := by
  rw [Input.toJson, legible_object]
  simp [Slot.toJson, legible_string, legible_uint8, legible_uint16]

theorem GameObject.legible_members {o : GameObject} (h : ∀ x ∈ o.floats, ReadsBack x) :
    ∀ m ∈ o.members, m.2.Legible := by
  have hfloats : ∀ x ∈ o.floats, (Value.ofFloat x).Legible := fun x hx => legible_ofFloat (h x hx)
  simpa [GameObject.members, GameObject.floats, legible_uint16] using hfloats

theorem SessionReport.legible (r : SessionReport) : r.toJson.Legible := by
  have hplayers := legible_map r.players fun p _ => p.legible
  rw [SessionReport.toJson, legible_object]
  simp [SessionId.toJson, legible_string, hplayers]

theorem SessionEvent.legible (e : SessionEvent) : e.toJson.Legible := by
  have hactor : e.actor.toJson.Legible := by
    rw [Actor.toJson, legible_object]
    simp [ActorId.toJson, legible_string]
  rw [SessionEvent.toJson, legible_object]
  simp [legible_string, hactor, e.session.legible]

theorem InputEvent.legible (e : InputEvent) : e.toJson.Legible := by
  have hinputs := legible_map e.inputs fun i _ => i.legible
  have hslot := legible_memberIfSome "player_slot" (a := e.slot) fun s _ => legible_uint8 s.number
  rw [InputEvent.toJson, legible_object, List.forall_mem_append, List.forall_mem_append]
  refine ⟨⟨?_, hslot⟩, ?_⟩
  · simp [SessionId.toJson, ActorId.toJson, legible_string, hinputs]
  · simp [legible_uint64]

theorem MoveEvent.legible {e : MoveEvent} (h : ∀ x ∈ e.object.floats, ReadsBack x) : e.toJson.Legible := by
  have hsession := legible_memberIfSome "session_id" (a := e.session) fun s _ => legible_string s.text
  rw [MoveEvent.toJson, legible_object, List.forall_mem_append, List.forall_mem_append]
  refine ⟨⟨hsession, ?_⟩, GameObject.legible_members h⟩
  simp [legible_uint64]

theorem Snapshot.legible {s : Snapshot} (h : ∀ os, s.objects = some os → ∀ o ∈ os, ∀ x ∈ o.floats, ReadsBack x) :
    s.toJson.Legible := by
  have hinputs := legible_map s.inputs fun i _ => i.legible
  have hobjects := legible_memberIfSome "objects" (a := s.objects)
    (f := fun os => .array (os.map GameObject.toJson)) fun os hos => legible_map os fun o ho =>
      legible_object.mpr (GameObject.legible_members (h os hos o ho))
  rw [Snapshot.toJson, legible_object, List.forall_mem_append, List.forall_mem_append]
  refine ⟨⟨?_, hobjects⟩, ?_⟩
  · simp [SessionId.toJson, legible_string, hinputs]
  · simp [ActorId.toJson, legible_string, legible_uint64]

theorem StatusEvent.legible (e : StatusEvent) : e.toJson.Legible := by
  have hscore : e.state.score.toJson.Legible := by
    rw [Score.toJson, legible_object]
    simp [legible_uint32]
  have hstate : e.state.toJson.Legible := by
    rw [GameState.toJson, legible_object]
    simp [hscore]
  rw [StatusEvent.toJson, legible_object]
  simp [SessionId.toJson, legible_string, hstate]

def Event.objects : Event → List GameObject
  | .move e => [e.object]
  | .tick s => s.objects.getD []
  | .session _ | .input _ | .status _ => []

def Event.floats (e : Event) : List Float :=
  e.objects.flatMap GameObject.floats

theorem Event.forall_floats {P : Float → Prop} {e : Event} :
    (∀ x ∈ e.floats, P x) ↔ ∀ o ∈ e.objects, ∀ x ∈ o.floats, P x := by
  simp only [Event.floats, List.mem_flatMap, forall_exists_index, and_imp]
  exact ⟨fun h o ho x hx => h x o ho hx, fun h x o ho hx => h o ho x hx⟩

theorem Event.legible {e : Event} (h : ∀ x ∈ e.floats, ReadsBack x) : e.toJson.Legible := by
  rw [Event.forall_floats] at h
  cases e with
  | session e => exact e.legible
  | input e => exact e.legible
  | move e => exact MoveEvent.legible (h e.object (List.mem_singleton_self _))
  | tick s =>
    refine Snapshot.legible fun os hos o ho => h o ?_
    simpa [Event.objects, hos] using ho
  | status e => exact e.legible

theorem Event.decode_toTree {e : Event} (h : ∀ x ∈ e.floats, x.isFinite = true) :
    Event.decode e.topic e.toJson.toTree = .ok e := by
  rw [Event.forall_floats] at h
  cases e with
  | session e =>
    show (SessionEvent.decode e.toJson.toTree).map Event.session = _
    rw [e.decode_toTree]
    rfl
  | input e =>
    show (InputEvent.decode e.toJson.toTree).map Event.input = _
    rw [e.decode_toTree]
    rfl
  | move e =>
    have hobject := h e.object (List.mem_singleton_self _)
    show (MoveEvent.decode e.toJson.toTree).map Event.move = _
    rw [MoveEvent.decode_toTree hobject]
    rfl
  | tick s =>
    have hobjects : ∀ os, s.objects = some os → ∀ o ∈ os, ∀ x ∈ o.floats, x.isFinite = true := by
      intro os hos o ho
      refine h o ?_
      simpa [Event.objects, hos] using ho
    show (Snapshot.decode s.toJson.toTree).map Event.tick = _
    rw [Snapshot.decode_toTree hobjects]
    rfl
  | status e =>
    show (StatusEvent.decode e.toJson.toTree).map Event.status = _
    rw [e.decode_toTree]
    rfl

/-- An event is read from its text as it was. -/
theorem Event.run_toText {e : Event} (hfinite : ∀ x ∈ e.floats, x.isFinite = true)
    (hreads : ∀ x ∈ e.floats, ReadsBack x) : (Event.decode e.topic).run e.toJson.toText = .ok e :=
  Json.run_toText (Event.legible hreads) (Event.decode_toTree hfinite)

end PaddleLink
