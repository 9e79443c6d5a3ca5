import PaddleLink.Lobby

namespace PaddleLink

def Session.seat (s : Session) : SessionId × Role × Option Actor :=
  (s.id, s.role, s.network?.map NetworkSession.me)

theorem Session.seat_eq_of_network {t : Session} {s : NetworkSession}
    (h : t.seat = (Session.network s).seat) :
    ∃ s', t = .network s' ∧ s'.id = s.id ∧ s'.role = s.role ∧ s'.me = s.me := by
  cases t with
  | solo => simp [seat, network?] at h
  | network s' =>
    have hs : s'.id = s.id ∧ s'.role = s.role ∧ s'.me = s.me := by
      simpa [seat, network?, Session.id, Session.role] using h
    exact ⟨s', rfl, hs⟩

namespace Lobby

def Begun (l : Lobby) : Prop :=
  l.lifecycle = .uninitialized ↔ l.session = none

theorem begun_initial : initial.Begun :=
  ⟨fun _ => rfl, fun _ => rfl⟩

theorem of_sessionFor_eq_ok {l : Lobby} {e : SessionEvent} {s : NetworkSession}
    (h : l.sessionFor e = .ok s) :
    l.session = some (.network s) ∧ s.state ≠ .closed ∧ s.id = e.session.id := by
  unfold sessionFor at h
  split at h
  · cases h
  · cases h
  · rename_i t ht
    split at h
    · cases h
    · rename_i hopen
      split at h
      · cases h
      · rename_i hid
        cases h
        exact ⟨ht, hopen, Classical.not_not.mp hid⟩

/-- An event leaves the lobby as it is, or shows the session that it reports. -/
theorem after_reconcile (l : Lobby) (e : SessionEvent) :
    l.after (l.reconcile e).acts =
      match l.sessionFor e with
      | .ok s =>
        { l with
          session := some (.network (s.update e.session))
          lifecycle := if e.session.state = .closed then .closed else l.lifecycle }
      | .error _ => l := by
  unfold reconcile
  cases l.sessionFor e with
  | error stale => rfl
  | ok s =>
    simp only [showUpdate, NetworkSession.update]
    by_cases hc : e.session.state = .closed
    · simp only [hc, if_true]
      rfl
    · simp only [hc, if_false]
      rfl

theorem seat_after_reconcile (l : Lobby) (e : SessionEvent) :
    (l.after (l.reconcile e).acts).session.map Session.seat = l.session.map Session.seat := by
  rw [after_reconcile]
  cases h : l.sessionFor e with
  | error stale => rfl
  | ok s =>
    rw [(of_sessionFor_eq_ok h).1]
    rfl

theorem begun_after_reconcile {l : Lobby} (hl : l.Begun) (e : SessionEvent) :
    (l.after (l.reconcile e).acts).Begun := by
  rw [after_reconcile]
  cases h : l.sessionFor e with
  | error stale => exact hl
  | ok s =>
    have hrun : l.lifecycle ≠ .uninitialized := by
      intro hu
      have hnone := hl.mp hu
      rw [(of_sessionFor_eq_ok h).1] at hnone
      cases hnone
    constructor
    · intro hu
      simp only at hu
      split at hu
      · cases hu
      · exact absurd hu hrun
    · intro hn
      cases hn

/-- Whatever the server reports, the session stays the same one, with this client in the same seat. -/
theorem seat_after_reconcileAll (l : Lobby) (es : List SessionEvent) :
    (l.after (l.reconcileAll es)).session.map Session.seat = l.session.map Session.seat := by
  induction es generalizing l with
  | nil => rfl
  | cons e es ih =>
    rw [reconcileAll, after_append, ih]
    exact seat_after_reconcile l e

theorem status_after_reconcileAll (l : Lobby) (es : List SessionEvent) :
    (l.after (l.reconcileAll es)).status = l.status := by
  induction es generalizing l with
  | nil => rfl
  | cons e es ih =>
    rw [reconcileAll, after_append, ih, after_reconcile]
    split <;> rfl

/-- Without a session that the server can still change, all events are stale. -/
theorem after_reconcileAll_of_stale {l : Lobby} (h : ∀ s, l.session = some (.network s) → s.state = .closed)
    (es : List SessionEvent) : l.after (l.reconcileAll es) = l := by
  induction es with
  | nil => rfl
  | cons e es ih =>
    have hone : l.after (l.reconcile e).acts = l := by
      rw [after_reconcile]
      cases hs : l.sessionFor e with
      | error stale => rfl
      | ok s =>
        obtain ⟨hsession, hopen, -⟩ := of_sessionFor_eq_ok hs
        exact absurd (h s hsession) hopen
    rw [reconcileAll, after_append, hone, ih]

/-- The server can end the session, but neither start nor resume one. -/
theorem lifecycle_after_reconcileAll (l : Lobby) (es : List SessionEvent) :
    (l.after (l.reconcileAll es)).lifecycle = l.lifecycle ∨ (l.after (l.reconcileAll es)).lifecycle = .closed := by
  induction es generalizing l with
  | nil => exact .inl rfl
  | cons e es ih =>
    have hone : (l.after (l.reconcile e).acts).lifecycle = l.lifecycle ∨
        (l.after (l.reconcile e).acts).lifecycle = .closed := by
      rw [after_reconcile]
      split
      · by_cases hc : e.session.state = .closed
        · exact .inr (if_pos hc)
        · exact .inl (if_neg hc)
      · exact .inl rfl
    rw [reconcileAll, after_append]
    rcases ih (l.after (l.reconcile e).acts) with hsame | hclosed
    · rw [hsame]
      exact hone
    · exact .inr hclosed

theorem begun_after_reconcileAll {l : Lobby} (hl : l.Begun) (es : List SessionEvent) :
    (l.after (l.reconcileAll es)).Begun := by
  induction es generalizing l with
  | nil => exact hl
  | cons e es ih =>
    rw [reconcileAll, after_append]
    exact ih (begun_after_reconcile hl e)

end Lobby

end PaddleLink
