import PaddleLink.Proofs.Lobby.Seat

namespace PaddleLink.Lobby

inductive StartOutcome (l : Lobby) (endpoint : Endpoint) (s : Start) :
    Course (Except SessionError Session) → Prop where
  | busy (h : l.lifecycle ≠ .uninitialized) : StartOutcome l endpoint s ⟨[], .error (.busy l.lifecycle)⟩
  | solo (acts : List Act) (h : l.lifecycle = .uninitialized) (hs : s = .solo)
    (after : l.after acts = ⟨some .solo, .idle, .running⟩) : StartOutcome l endpoint s ⟨acts, .ok .solo⟩
  | granted (acts : List Act) (r : Request) (g : Grant) (h : l.lifecycle = .uninitialized)
    (hr : s.request? = some r) (answer : endpoint.answer = .ok g)
    (after : l.after acts = ⟨some (.network (g.sessionAs r.role)), .idle, .running⟩) :
    StartOutcome l endpoint s ⟨acts, .ok (.network (g.sessionAs r.role))⟩
  | failed (acts : List Act) (r : Request) (e : SessionError) (h : l.lifecycle = .uninitialized)
    (hr : s.request? = some r) (answer : endpoint.answer = .error e)
    (after : l.after acts = { l with status := .failed e.message }) :
    StartOutcome l endpoint s ⟨acts, .error e⟩

theorem startOutcome (l : Lobby) (setupDelay : Nat) (endpoint : Endpoint) (s : Start) :
    l.StartOutcome endpoint s (l.start setupDelay endpoint s) := by
  unfold start
  by_cases hl : l.lifecycle = .uninitialized
  · cases hr : s.request? with
    | none =>
      have hs : s = .solo := by
        cases s with
        | solo => rfl
        | host => cases hr
        | join id => cases hr
        | watch id => cases hr
      simp only [startSolo, ifIdle, hl, if_true]
      exact .solo _ hl hs rfl
    | some r =>
      simp only [startNetwork, ifIdle, hl, if_true]
      cases ha : endpoint.answer with
      | ok g => exact .granted _ r g hl hr ha rfl
      | error e =>
        refine .failed _ r e hl hr ha ?_
        obtain ⟨session, status, lifecycle⟩ := l
        cases hl
        rfl
  · have hbusy : l.StartOutcome endpoint s ⟨[], .error (.busy l.lifecycle)⟩ := .busy hl
    cases hr : s.request? with
    | none => simpa [startSolo, ifIdle, hl] using hbusy
    | some r => simpa [startNetwork, ifIdle, hl, Except.map] using hbusy

end PaddleLink.Lobby
