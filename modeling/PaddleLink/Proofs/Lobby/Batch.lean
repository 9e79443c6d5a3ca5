import PaddleLink.Proofs.Lobby.Seat

namespace PaddleLink

namespace NetworkSession

def isNamedBy (s : NetworkSession) (e : SessionEvent) : Bool :=
  e.session.id = s.id

def isEndedBy (s : NetworkSession) (e : SessionEvent) : Bool :=
  s.isNamedBy e && e.session.state = .closed

end NetworkSession

namespace Lobby

variable {l : Lobby} {s : NetworkSession}

theorem after_reconcile_of_live (hs : l.session = some (.network s)) (hopen : s.state ≠ .closed) (e : SessionEvent) :
    l.after (l.reconcile e).acts =
      if s.isNamedBy e then
        { l with
          session := some (.network (s.update e.session))
          lifecycle := if s.isEndedBy e then .closed else l.lifecycle }
      else l := by
  rw [after_reconcile]
  by_cases hid : s.id = e.session.id
  · have hfor : l.sessionFor e = .ok s := by simp [sessionFor, hs, hopen, hid]
    simp [hfor, NetworkSession.isEndedBy, NetworkSession.isNamedBy, hid]
  · have hfor : l.sessionFor e = .error (.otherSession e.session.id s.id) := by simp [sessionFor, hs, hopen, hid]
    simp [hfor, NetworkSession.isNamedBy, Ne.symm hid]

/-- The session that a batch leaves of one that is live, and the lifecycle with it. -/
theorem after_reconcileAll_of_live (hs : l.session = some (.network s)) (hopen : s.state ≠ .closed)
    (es : List SessionEvent) :
    l.after (l.reconcileAll es) =
      match es.find? s.isEndedBy, (es.filter s.isNamedBy).getLast? with
      | some e, _ => { l with session := some (.network (s.update e.session)), lifecycle := .closed }
      | none, some e => { l with session := some (.network (s.update e.session)) }
      | none, none => l := by
  induction es generalizing l s with
  | nil => rfl
  | cons e es ih =>
    rw [reconcileAll, after_append, after_reconcile_of_live hs hopen]
    by_cases hnamed : s.isNamedBy e = true
    · rw [if_pos hnamed, List.filter_cons_of_pos hnamed]
      by_cases hended : s.isEndedBy e = true
      · have hclosed : e.session.state = .closed := by simpa [NetworkSession.isEndedBy, hnamed] using hended
        rw [if_pos hended, List.find?_cons_of_pos hended]
        apply after_reconcileAll_of_stale
        rintro s' ⟨⟩
        exact hclosed
      -- the session goes on as the event says; it is still the one that the rest of the batch may name
      · have hlive : e.session.state ≠ .closed := by simpa [NetworkSession.isEndedBy, hnamed] using hended
        have hsame : (s.update e.session).isNamedBy = s.isNamedBy ∧ (s.update e.session).isEndedBy = s.isEndedBy :=
          ⟨rfl, rfl⟩
        rw [if_neg hended, List.find?_cons_of_neg hended, ih rfl hlive, hsame.1, hsame.2, List.getLast?_cons]
        cases es.find? s.isEndedBy with
        | some e' => rfl
        | none => cases (es.filter s.isNamedBy).getLast? <;> rfl
    · have hended : ¬s.isEndedBy e = true := by simp [NetworkSession.isEndedBy, hnamed]
      rw [if_neg hnamed, ih hs hopen, List.find?_cons_of_neg hended, List.filter_cons_of_neg hnamed]

/-- What a batch leaves of a live session is what its first end says, or else the last event that names the session.
Without such an event, or without a live session, it changes nothing; and in no case does it change the status or
this client's seat. -/
theorem after_batch (l : Lobby) (es : List SessionEvent) :
    let l' := l.after (l.reconcileAll es)
    (∀ s, l.session = some (.network s) → s.state ≠ .closed →
      l' = match es.find? s.isEndedBy, (es.filter s.isNamedBy).getLast? with
        | some e, _ => { l with session := some (.network (s.update e.session)), lifecycle := .closed }
        | none, some e => { l with session := some (.network (s.update e.session)) }
        | none, none => l) ∧
    ((∀ s, l.session = some (.network s) → s.state = .closed) → l' = l) ∧
    l'.status = l.status ∧ l'.session.map Session.seat = l.session.map Session.seat := by
  intro l'
  refine ⟨?_, ?_, status_after_reconcileAll l es, seat_after_reconcileAll l es⟩
  · intro s hs hopen
    exact after_reconcileAll_of_live hs hopen es
  · intro hstale
    exact after_reconcileAll_of_stale hstale es

/-- Two ends and news between them: the first end counts. -/
example :
    let report (state : SessionState) (players : List Player) : SessionEvent :=
      ⟨⟨⟨"b"⟩⟩, "changed", "", ⟨⟨"s"⟩, state, players⟩⟩
    let s : NetworkSession := ⟨⟨"s"⟩, .host, .pending, [], ⟨⟨"a"⟩⟩⟩
    let l : Lobby := ⟨some (.network s), .idle, .running⟩
    let batch := [report .running [⟨⟨"a"⟩, .one⟩], report .closed [⟨⟨"b"⟩, .two⟩], report .pending [], report .closed []]
    l.after (l.reconcileAll batch) =
      ⟨some (.network { s with state := .closed, players := [⟨⟨"b"⟩, .two⟩] }), .idle, .closed⟩ := by
  decide

end Lobby

end PaddleLink
