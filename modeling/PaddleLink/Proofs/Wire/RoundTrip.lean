import PaddleLink.Proofs.Wire.Floats
import PaddleLink.Wire.Frame

namespace PaddleLink

open Json

theorem Envelope.legible (e : Envelope) : e.toJson.Legible := by
  rw [Envelope.toJson, legible_object]
  simp [legible_string]

theorem Envelope.decode_toTree (e : Envelope) : Envelope.decode e.toJson.toTree = .ok e := by
  apply decode_object
  · simp
  · exact reads_seq (reads_map _ (reads_field rfl (text_toTree e.topic))) (reads_field rfl (text_toTree e.event))

theorem Topic.ofName?_name (t : Topic) : Topic.ofName? t.name = some t := by
  cases t <;> rfl

/-- An envelope holds the event that was put into it. -/
theorem Event.event?_seal {e : Event} (hvalid : e.violation? = none)
    (hfloats : ∀ x ∈ e.floats, x.isFinite = true ∧ ReadsBack x) : e.seal.event? = some e := by
  have hrun := Event.run_toText (fun x hx => (hfloats x hx).1) (fun x hx => (hfloats x hx).2)
  have hunseal : e.seal.unseal = .ok (some e) := by
    simp only [Envelope.unseal, Event.seal, Topic.ofName?_name, hrun, hvalid]
  rw [Envelope.event?, hunseal]

theorem Envelope.unseal_some {envelope : Envelope} {e : Event} (h : envelope.unseal = .ok (some e)) :
    ∃ topic, (Event.decode topic).run envelope.event = .ok e ∧ e.violation? = none := by
  unfold Envelope.unseal at h
  split at h
  · cases h
  · rename_i topic _
    split at h
    · cases h
    · rename_i hrun
      split at h
      · cases h
      · rename_i hvalid
        cases h
        exact ⟨topic, hrun, hvalid⟩

/-- An event is taken out of an envelope only if it can be used. -/
theorem Envelope.of_event? {envelope : Envelope} {e : Event} (h : envelope.event? = some e) :
    e.violation? = none ∧ ∀ x ∈ e.floats, x.isFinite = true := by
  unfold Envelope.event? at h
  split at h
  · rename_i hunseal
    subst h
    obtain ⟨topic, hrun, hvalid⟩ := Envelope.unseal_some hunseal
    have hroot := all_root envelope.event.toList
    exact ⟨hvalid, yields_event topic _ e hroot (decode_of_run hrun)⟩
  · cases h

theorem writeFrame_eq (events : List Event) :
    writeFrame events = (Value.array ((events.map Event.seal).map Envelope.toJson)).toText := by
  rw [writeFrame, List.map_map]
  rfl

theorem filterMap_seal {events : List Event} (h : ∀ e ∈ events, e.seal.event? = some e) :
    (events.map Event.seal).filterMap Envelope.event? = events := by
  induction events with
  | nil => rfl
  | cons e events ih =>
    obtain ⟨he, hrest⟩ := List.forall_mem_cons.mp h
    rw [List.map_cons, List.filterMap_cons_some he, ih hrest]

/-- A frame of events that can be used is read as it was written. -/
theorem readFrame_of_usable {events : List Event} (hvalid : ∀ e ∈ events, e.violation? = none)
    (hfloats : ∀ e ∈ events, ∀ x ∈ e.floats, x.isFinite = true ∧ ReadsBack x) :
    readFrame (writeFrame events) = .ok events := by
  have hseal : ∀ e ∈ events, e.seal.event? = some e :=
    fun e he => Event.event?_seal (hvalid e he) (hfloats e he)
  have hlist := list_toTree (events.map Event.seal) fun e _ => e.decode_toTree
  have hlegible := legible_map (events.map Event.seal) fun e _ => e.legible
  rw [writeFrame_eq, readFrame, run_toText hlegible hlist]
  simp only [filterMap_seal hseal]

/-- The events of a frame can be used. -/
theorem usable_of_readFrame {text : String} {events : List Event} (h : readFrame text = .ok events) :
    ∀ e ∈ events, e.violation? = none ∧ ∀ x ∈ e.floats, x.isFinite = true := by
  unfold readFrame at h
  split at h
  · rename_i envelopes _
    cases h
    intro e he
    obtain ⟨envelope, -, henvelope⟩ := List.mem_filterMap.mp he
    exact Envelope.of_event? henvelope
  · cases h

/-- Usable events with legible numbers are read from their frame as they were, and whatever a frame gives is
usable and so, with legible numbers, comes back from a frame of its own. -/
theorem readFrame_writeFrame :
    (∀ events : List Event,
      (∀ e ∈ events, e.violation? = none ∧ ∀ x ∈ e.floats, x.isFinite = true ∧ ReadsBack x) →
      readFrame (writeFrame events) = .ok events) ∧
    (∀ text events, readFrame text = .ok events →
      (∀ e ∈ events, e.violation? = none ∧ ∀ x ∈ e.floats, x.isFinite = true) ∧
      ((∀ e ∈ events, ∀ x ∈ e.floats, ReadsBack x) → readFrame (writeFrame events) = .ok events)) := by
  constructor
  · intro events h
    exact readFrame_of_usable (fun e he => (h e he).1) (fun e he => (h e he).2)
  · intro text events h
    have husable := usable_of_readFrame h
    refine ⟨husable, fun hreads => readFrame_of_usable (fun e he => (husable e he).1) ?_⟩
    intro e he x hx
    exact ⟨(husable e he).2 x hx, hreads e he x hx⟩

theorem readsBack_1_5 : ReadsBack 1.5 := by
  have htext : Decimal.ofFloat 1.5 = ['1', '.', '5'] := by decide +kernel
  have hscan : scanNumber ['1', '.', '5'] = .ok (⟨false, [1], [5], none⟩, []) := rfl
  have hquotient : Float.ofNat 15 / Decimal.powerOfTen 1 = 1.5 := by decide +kernel
  have hvalue : Decimal.toFloat? 15 (-1) = some 1.5 := by
    show some (Decimal.divide (Float.ofNat 15) 1) = some 1.5
    rw [Decimal.divide, if_pos (by decide), hquotient]
  show numberToken (Decimal.ofFloat 1.5) = _
  rw [htext, numberToken, hscan]
  show (Token.number (floatValue.finish false 15 (-1)), []) = _
  rw [floatValue.finish, hvalue]
  rfl

theorem readFrame_writeFrame_move :
    let event := Event.move ⟨some ⟨"a\"b"⟩, 1700000000000, ⟨3, 1.5, 1.5, 1.5, 1.5, 1.5, 1.5, 4, 5⟩⟩
    readFrame (writeFrame [event, event]) = .ok [event, event] := by
  intro event
  have hfinite : (1.5 : Float).isFinite = true := by decide +kernel
  refine readFrame_writeFrame.1 [event, event] ?_
  intro e he
  have hevent : e = event := by simpa using he
  subst hevent
  refine ⟨rfl, ?_⟩
  intro x hx
  have hvalue : x = 1.5 := by simpa [event, Event.floats, Event.objects, GameObject.floats] using hx
  subst hvalue
  exact ⟨hfinite, readsBack_1_5⟩

end PaddleLink
