import PaddleLink.Proofs.Paddles.Remote

namespace PaddleLink

def Session.me? (s : Session) : Option ActorId :=
  s.network?.map fun s => s.me.id

/-- What the source of a slot gives: the held keys, or what the player of the roster has sent last. A player who
is this client itself gives nothing over the network. -/
def sourceInputs (session : Session) (keyboard : Keyboard) (heard : List InputEvent) (slot : Slot) : List Input :=
  match session.role.source slot, session with
  | .keyboard, _ => keyboard.inputsFor slot
  | .network, .solo => []
  | .network, .network s =>
    match s.playerIn slot with
    | some player => if player.id = s.me.id then [] else lastInputs heard player.id
    | none => []

theorem slotInputs_eq_sourceInputs (session : Session) (keyboard : Keyboard) (heard : List InputEvent) (slot : Slot) :
    slotInputs session keyboard (RemoteInputs.empty.applyAll session.me? heard) slot =
      sourceInputs session keyboard heard slot := by
  unfold slotInputs sourceInputs
  cases session with
  | solo => rfl
  | network s =>
    cases (Session.network s).role.source slot with
    | keyboard => rfl
    | network =>
      simp only [Session.network?, Option.bind_some]
      cases s.playerIn slot with
      | none => rfl
      | some player =>
        have hnone : ∀ p, RemoteInputs.empty.inputsOf p = if p = s.me.id then [] else lastInputs [] p := by
          intro p
          split <;> rfl
        exact RemoteInputs.inputsOf_applyAll .empty s.me.id [] heard hnone player.id

/-- The composed inputs are those of the two sources, one after the other. -/
theorem compose_eq_sourceInputs (session : Session) (keyboard : Keyboard) (heard : List InputEvent) :
    compose (some session) keyboard (RemoteInputs.empty.applyAll session.me? heard) =
      sourceInputs session keyboard heard .one ++ sourceInputs session keyboard heard .two := by
  rw [compose, Slot.all, List.flatMap_cons, List.flatMap_cons, List.flatMap_nil, List.append_nil,
    slotInputs_eq_sourceInputs, slotInputs_eq_sourceInputs]

theorem slot_of_mem_sourceInputs {session : Session} {keyboard : Keyboard} {heard : List InputEvent} {slot : Slot}
    (hsource : session.role.source slot = .keyboard) {i : Input} (h : i ∈ sourceInputs session keyboard heard slot) :
    i.slot = slot := by
  unfold sourceInputs at h
  rw [hsource] at h
  exact Keyboard.slot_of_mem_inputsFor h

section

variable {α : Type} {p : α → Bool} {as bs : List α}

theorem filter_append_eq_left_iff : (as ++ bs).filter p = as ↔ (∀ a ∈ as, p a) ∧ ∀ b ∈ bs, ¬ p b := by
  constructor
  · intro h
    have has : ∀ a ∈ as, p a := by
      intro a ha
      rw [← h] at ha
      exact (List.mem_filter.mp ha).2
    rw [List.filter_append, List.filter_eq_self.mpr has, List.append_right_eq_self] at h
    exact ⟨has, List.filter_eq_nil_iff.mp h⟩
  · rintro ⟨has, hbs⟩
    rw [List.filter_append, List.filter_eq_self.mpr has, List.filter_eq_nil_iff.mpr hbs, List.append_nil]

theorem filter_append_eq_right_iff : (as ++ bs).filter p = bs ↔ (∀ a ∈ as, ¬ p a) ∧ ∀ b ∈ bs, p b := by
  constructor
  · intro h
    have hbs : ∀ b ∈ bs, p b := by
      intro b hb
      rw [← h] at hb
      exact (List.mem_filter.mp hb).2
    rw [List.filter_append, List.filter_eq_self.mpr hbs, List.append_left_eq_self] at h
    exact ⟨List.filter_eq_nil_iff.mp h, hbs⟩
  · rintro ⟨has, hbs⟩
    rw [List.filter_append, List.filter_eq_self.mpr hbs, List.filter_eq_nil_iff.mpr has, List.nil_append]

end

/-- The inputs for a slot are those of its source exactly when every remote player sends inputs for its own slot
only. -/
theorem fed_by_source_iff (session : Session) (keyboard : Keyboard) (heard : List InputEvent) (slot : Slot) :
    (compose (some session) keyboard (RemoteInputs.empty.applyAll session.me? heard)).filter (fun i => i.slot = slot) =
        sourceInputs session keyboard heard slot ↔
      ∀ other, session.role.source other = .network →
        ∀ i ∈ sourceInputs session keyboard heard other, i.slot = slot ↔ other = slot := by
  let Fits (other : Slot) : Prop := ∀ i ∈ sourceInputs session keyboard heard other, i.slot = slot ↔ other = slot
  have hkeys : ∀ other, (session.role.source other = .network → Fits other) ↔ Fits other := by
    intro other
    cases hsource : session.role.source other with
    | network => exact ⟨fun h => h rfl, fun h _ => h⟩
    | keyboard =>
      refine ⟨fun _ i hi => ?_, fun h _ => h⟩
      rw [slot_of_mem_sourceInputs hsource hi]
  have hboth : (∀ other, Fits other) ↔ Fits .one ∧ Fits .two := by
    refine ⟨fun h => ⟨h .one, h .two⟩, fun h other => ?_⟩
    cases other with
    | one => exact h.1
    | two => exact h.2
  have hgoal : (∀ other, session.role.source other = .network → Fits other) ↔ Fits .one ∧ Fits .two :=
    (forall_congr' hkeys).trans hboth
  refine Iff.trans ?_ hgoal.symm
  rw [compose_eq_sourceInputs]
  cases slot with
  | one =>
    rw [filter_append_eq_left_iff]
    simp [Fits]
  | two =>
    rw [filter_append_eq_right_iff]
    simp [Fits]

/-- A host holds a key of its paddle while the other player, with an event that breaks no limit, moves the same
paddle the other way. -/
theorem remote_inputs_reach_other_slot :
    let session := Session.network
      ⟨⟨"s"⟩, .host, .running, [⟨⟨"a"⟩, .one⟩, ⟨⟨"b"⟩, .two⟩], ⟨⟨"a"⟩⟩⟩
    let event : InputEvent := ⟨⟨"s"⟩, [.paddle .down .one], ⟨"b"⟩, some .two, 0⟩
    let composed := compose (some session) ⟨[.w]⟩ (RemoteInputs.empty.applyAll session.me? [event])
    (Event.input event).violation? = none ∧ session.role.source .one = .keyboard ∧
      sourceInputs session ⟨[.w]⟩ [event] .one = [.paddle .up .one] ∧
      composed.filter (fun i => i.slot = .one) = [.paddle .up .one, .paddle .down .one] := by
  decide

end PaddleLink
