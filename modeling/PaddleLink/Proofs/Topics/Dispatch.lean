import PaddleLink.Topics

namespace PaddleLink

def Counts.of (c : Counts) : Topic → Nat
  | .session => c.session
  | .input => c.input
  | .move => c.move
  | .tick => c.tick
  | .status => c.status

theorem of_ofBatch (batch : List Event) (t : Topic) : (Counts.ofBatch batch).of t = (eventsOf t batch).length := by
  cases t <;> rfl

/-- The parts of a batch hold all of it. -/
theorem total_ofBatch (batch : List Event) : (Counts.ofBatch batch).total = batch.length := by
  induction batch with
  | nil => rfl
  | cons e batch ih =>
    simp only [Counts.ofBatch, Counts.total, eventsOf] at ih ⊢
    cases e <;> simp [Event.topic, ← ih] <;> omega

theorem sessionEvents_map (batch : List Event) : (sessionEvents batch).map .session = eventsOf .session batch := by
  induction batch with
  | nil => rfl
  | cons e batch ih =>
    cases e <;> simpa [sessionEvents, eventsOf, Event.topic] using ih

theorem filterMap_eventsOf {α : Type} {f : Event → Option α} {t : Topic} (h : ∀ e : Event, e.topic ≠ t → f e = none)
    (es : List Event) : (eventsOf t es).filterMap f = es.filterMap f := by
  rw [eventsOf, List.filterMap_filter]
  congr 1
  funext e
  by_cases ht : e.topic = t
  · simp [ht]
  · simp [ht, h e ht]

theorem inputEvents_eventsOf (batch : List Event) : inputEvents (eventsOf .input batch) = inputEvents batch := by
  apply filterMap_eventsOf
  rintro (_ | _ | _ | _ | _) he <;> simp_all [Event.topic]

theorem tickEvents_eventsOf (batch : List Event) : tickEvents (eventsOf .tick batch) = tickEvents batch := by
  apply filterMap_eventsOf
  rintro (_ | _ | _ | _ | _) he <;> simp_all [Event.topic]

theorem statusEvents_eventsOf (batch : List Event) : statusEvents (eventsOf .status batch) = statusEvents batch := by
  apply filterMap_eventsOf
  rintro (_ | _ | _ | _ | _) he <;> simp_all [Event.topic]

theorem sessionEvents_eventsOf (batch : List Event) :
    sessionEvents (eventsOf .session batch) = sessionEvents batch := by
  apply filterMap_eventsOf
  rintro (_ | _ | _ | _ | _) he <;> simp_all [Event.topic]

namespace Multiplexer

/-- Publishing to some topics, each once, reaches the subscribers of these. -/
theorem foldl_publish_subscriptions (m : Multiplexer) (batch : List Event) {ts : List Topic} (hts : ts.Nodup) :
    ((ts.map fun t => Delivery.publish t (eventsOf t batch)).foldl deliver m) =
      { m with subscriptions := m.subscriptions.map fun (t, s) =>
        (t, if t ∈ ts then s.offer (eventsOf t batch) else s) } := by
  induction ts generalizing m with
  | nil => simp
  | cons topic ts ih =>
    obtain ⟨hnew, hts⟩ := List.nodup_cons.mp hts
    rw [List.map_cons, List.foldl_cons, ih _ hts]
    simp only [deliver, List.map_map]
    congr 1
    apply List.map_congr_left
    rintro ⟨t, s⟩ -
    by_cases ht : t = topic
    · subst ht
      simp [hnew]
    · simp [ht]

/-- A batch reaches every subscriber, each with the part of its topic. -/
theorem dispatch_eq (m : Multiplexer) (batch : List Event) (hm : m.closed = false) :
    m.dispatch batch =
      { m with subscriptions := m.subscriptions.map fun (t, s) => (t, s.offer (eventsOf t batch)) } := by
  have hall (t : Topic) : t ∈ Topic.all := by cases t <;> decide
  have hreconcile : m.dispatch batch =
      (Topic.all.map fun t => Delivery.publish t (eventsOf t batch)).foldl deliver m := by
    unfold dispatch deliveries
    by_cases he : (sessionEvents batch).isEmpty
    · simp [hm, he]
    · simp [hm, he, deliver]
  rw [hreconcile, foldl_publish_subscriptions m batch (by decide)]
  simp [hall]

/-- A batch concerns the session exactly when it holds session events. -/
theorem session_counts_pos_iff {m : Multiplexer} (hm : m.closed = false) {batch : List Event} :
    0 < (m.counts batch).session ↔ sessionEvents batch ≠ [] := by
  have hlength : (m.counts batch).session = (sessionEvents batch).length := by
    rw [← List.length_map (f := Event.session), sessionEvents_map, counts, hm]
    rfl
  rw [hlength, List.length_pos_iff]

theorem dispatch_of_closed (m : Multiplexer) (batch : List Event) (hm : m.closed = true) :
    m.dispatch batch = m := by
  simp [dispatch, deliveries, hm]

end Multiplexer

end PaddleLink
