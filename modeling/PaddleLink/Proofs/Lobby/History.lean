import PaddleLink.Proofs.Lobby.Start

/-!
The history of a lobby. Whatever is done with it, and in whatever order, its lifecycle takes only a few
kinds of steps, and a session keeps its seat from its start to its removal.
-/

namespace PaddleLink

inductive Deed where
  | start (delay : Nat) (endpoint : Endpoint) (s : Start)
  | reconcile (e : SessionEvent)
  | reconcileAll (es : List SessionEvent)
  | connectionLost (reason : Option String)
  | abort (e : SessionError)
  | reset

namespace Deed

def acts (l : Lobby) : Deed → List Act
  | .start delay endpoint s => (l.start delay endpoint s).acts
  | .reconcile e => (l.reconcile e).acts
  | .reconcileAll es => l.reconcileAll es
  | .connectionLost reason => Lobby.connectionLost reason
  | .abort e => Lobby.abort e
  | .reset => Lobby.reset

def starts : Deed → Bool
  | .start .. => true
  | _ => false

def informs : Deed → Bool
  | .reconcile _ | .reconcileAll _ => true
  | _ => false

def removes : Deed → Bool
  | .abort _ | .reset => true
  | _ => false

inductive Leads (d : Deed) : Lifecycle → Lifecycle → Prop where
  | asked (h : d.starts) : Leads d .uninitialized .pending
  | begun (h : d.starts) : Leads d .uninitialized .running
  | granted (h : d.starts) : Leads d .pending .running
  | refused (h : d.starts) : Leads d .pending .uninitialized
  | ended (h : d.informs) : Leads d .running .closed
  | removed (h : d.removes) (before : Lifecycle) : Leads d before .uninitialized

/-- The seat that comes with a deed: for play without a server that of the solo player, else the one that
the server grants, in the role that was asked for. -/
def seat? (l : Lobby) : Deed → Option (SessionId × Role × Option Actor)
  | .start _ endpoint s =>
    if l.lifecycle = .uninitialized then
      match s.request?, endpoint.answer with
      | none, _ => some (.solo, .solo, none)
      | some r, .ok g => some (g.session.id, r.role, some g.actor)
      | some _, .error _ => none
    else none
  | _ => none

end Deed

namespace Lobby

/-- The steps that the lifecycle takes while acts are done. Showing it again as it is is no step. -/
def moves (l : Lobby) : List Act → List (Lifecycle × Lifecycle)
  | [] => []
  | a :: acts =>
    if (l.act a).lifecycle = l.lifecycle then (l.act a).moves acts
    else (l.lifecycle, (l.act a).lifecycle) :: (l.act a).moves acts

theorem moves_append (l : Lobby) (as bs : List Act) : l.moves (as ++ bs) = l.moves as ++ (l.after as).moves bs := by
  induction as generalizing l with
  | nil => rfl
  | cons a as ih =>
    simp only [List.cons_append, moves, after_cons]
    split
    · exact ih _
    · rw [ih, List.cons_append]

/-- Between two deeds nothing is pending, there is a session once one has been started, and what is shown as
closed has been closed. -/
structure Steady (l : Lobby) : Prop where
  begun : l.Begun
  settled : l.lifecycle ≠ .pending
  ended : l.lifecycle = .closed → ∀ s, l.session = some (.network s) → s.state = .closed

theorem steady_initial : initial.Steady where
  begun := begun_initial
  settled := by simp [initial]
  ended := fun h => by cases h

variable {l : Lobby}

theorem Steady.lifecycle_of_sessionFor (h : l.Steady) {e : SessionEvent} {s : NetworkSession}
    (hs : l.sessionFor e = .ok s) : l.lifecycle = .running := by
  obtain ⟨hsession, hopen, -⟩ := of_sessionFor_eq_ok hs
  cases hl : l.lifecycle with
  | running => rfl
  | pending => exact absurd hl h.settled
  | closed => exact absurd (h.ended hl s hsession) hopen
  | uninitialized =>
    have hnone := h.begun.mp hl
    rw [hsession] at hnone
    cases hnone

theorem steady_after_reconcile (h : l.Steady) (e : SessionEvent) : (l.after (l.reconcile e).acts).Steady := by
  have hbegun := begun_after_reconcile h.begun e
  rw [after_reconcile] at hbegun ⊢
  cases hs : l.sessionFor e with
  | error stale => exact h
  | ok s =>
    rw [hs] at hbegun
    have hrunning := h.lifecycle_of_sessionFor hs
    by_cases hc : e.session.state = .closed
    · refine ⟨hbegun, by simp [hc], fun _ s' hs' => ?_⟩
      cases hs'
      exact hc
    · exact ⟨hbegun, by simp [hc, hrunning], fun hclosed => by simp [hc, hrunning] at hclosed⟩

theorem moves_reconcile (h : l.Steady) (e : SessionEvent) :
    ∀ m ∈ l.moves (l.reconcile e).acts, m = (.running, .closed) := by
  unfold reconcile
  cases hs : l.sessionFor e with
  | error stale => exact fun m hm => by cases hm
  | ok s =>
    have hrunning := h.lifecycle_of_sessionFor hs
    by_cases hc : (s.update e.session).state = .closed
    · simp [showUpdate, hc, moves, act, hrunning]
    · simp [showUpdate, hc, moves, act]

theorem reconcileAll_steps (h : l.Steady) (es : List SessionEvent) :
    (l.after (l.reconcileAll es)).Steady ∧ ∀ m ∈ l.moves (l.reconcileAll es), m = (.running, .closed) := by
  induction es generalizing l with
  | nil => exact ⟨h, fun m hm => by cases hm⟩
  | cons e es ih =>
    obtain ⟨hsteady, hmoves⟩ := ih (steady_after_reconcile h e)
    rw [reconcileAll, after_append, moves_append]
    refine ⟨hsteady, fun m hm => ?_⟩
    rcases List.mem_append.mp hm with hfirst | hrest
    · exact moves_reconcile h e m hfirst
    · exact hmoves m hrest

theorem moves_start (delay : Nat) (endpoint : Endpoint) (s : Start) :
    ∀ m ∈ l.moves (l.start delay endpoint s).acts, (Deed.start delay endpoint s).Leads m.1 m.2 := by
  by_cases hl : l.lifecycle = .uninitialized
  · cases hr : s.request? with
    | none =>
      have hmoves : l.moves (l.start delay endpoint s).acts = [(.uninitialized, .running)] := by
        simp [start, hr, startSolo, ifIdle, hl, moves, act]
      rw [hmoves]
      exact List.forall_mem_singleton.mpr (.begun rfl)
    | some r =>
      cases ha : endpoint.answer with
      | ok g =>
        have hmoves : l.moves (l.start delay endpoint s).acts =
            [(.uninitialized, .pending), (.pending, .running)] := by
          simp [start, hr, startNetwork, ifIdle, hl, ha, asking, moves, act]
        rw [hmoves]
        exact List.forall_mem_cons.mpr ⟨.asked rfl, List.forall_mem_singleton.mpr (.granted rfl)⟩
      | error e =>
        have hmoves : l.moves (l.start delay endpoint s).acts =
            [(.uninitialized, .pending), (.pending, .uninitialized)] := by
          simp [start, hr, startNetwork, ifIdle, hl, ha, asking, moves, act]
        rw [hmoves]
        exact List.forall_mem_cons.mpr ⟨.asked rfl, List.forall_mem_singleton.mpr (.refused rfl)⟩
  · have hnone : (l.start delay endpoint s).acts = [] := by
      cases hr : s.request? <;> simp [start, hr, startSolo, startNetwork, ifIdle, hl]
    rw [hnone]
    exact fun m hm => by cases hm

/-- A start leads to a session in the seat that comes with it, or leaves the lobby without one. -/
theorem steady_after_start (h : l.Steady) (delay : Nat) (endpoint : Endpoint) (s : Start) :
    let l' := l.after (l.start delay endpoint s).acts
    l'.Steady ∧ l'.session.map Session.seat =
      ((Deed.start delay endpoint s).seat? l).or (l.session.map Session.seat) := by
  have houtcome := l.startOutcome delay endpoint s
  revert houtcome
  generalize l.start delay endpoint s = course
  intro houtcome
  cases houtcome with
  | busy hl =>
    rw [Deed.seat?, if_neg hl]
    exact ⟨h, rfl⟩
  | solo acts hl hs after =>
    have hsteady : (⟨some .solo, .idle, .running⟩ : Lobby).Steady := ⟨⟨nofun, nofun⟩, nofun, nofun⟩
    rw [Deed.seat?, if_pos hl, hs, after]
    exact ⟨hsteady, rfl⟩
  | granted acts r g hl hr answer after =>
    have hsteady : (⟨some (.network (g.sessionAs r.role)), .idle, .running⟩ : Lobby).Steady :=
      ⟨⟨nofun, nofun⟩, nofun, nofun⟩
    rw [Deed.seat?, if_pos hl, hr, answer, after]
    exact ⟨hsteady, rfl⟩
  | failed acts r e hl hr answer after =>
    rw [Deed.seat?, if_pos hl, hr, answer, after]
    exact ⟨⟨h.begun, h.settled, h.ended⟩, rfl⟩

theorem moves_removal (l : Lobby) (status : Status) :
    ∀ m ∈ l.moves [.showSession none, .showLifecycle .uninitialized, .showStatus status], m.2 = .uninitialized := by
  intro m hm
  by_cases hl : l.lifecycle = .uninitialized
  · simp [moves, act, hl] at hm
  · have hone : m = (l.lifecycle, .uninitialized) := by simpa [moves, act, Ne.symm hl] using hm
    rw [hone]

theorem steady_removed (status : Status) : (⟨none, status, .uninitialized⟩ : Lobby).Steady where
  begun := ⟨fun _ => rfl, fun _ => rfl⟩
  settled := nofun
  ended := nofun

end Lobby

structure Archive where
  lobby : Lobby
  moves : List (Deed × Lifecycle × Lifecycle)
  /-- The seat of the last session that was started, until it is removed. -/
  seat : Option (SessionId × Role × Option Actor)

namespace Archive

def begin : Archive :=
  ⟨.initial, [], none⟩

def step (r : Archive) (d : Deed) : Archive where
  lobby := r.lobby.after (d.acts r.lobby)
  moves := r.moves ++ (r.lobby.moves (d.acts r.lobby)).map fun m => (d, m)
  seat := if d.removes then none else (d.seat? r.lobby).or r.seat

def run (r : Archive) (ds : List Deed) : Archive :=
  ds.foldl step r

structure Regular (r : Archive) : Prop where
  steady : r.lobby.Steady
  moves : ∀ m ∈ r.moves, m.1.Leads m.2.1 m.2.2
  seat : r.lobby.session.map Session.seat = r.seat

theorem regular_begin : begin.Regular where
  steady := Lobby.steady_initial
  moves := fun m hm => by cases hm
  seat := rfl

/-- What one deed does to a steady lobby. -/
theorem deed_steps {l : Lobby} (h : l.Steady) (d : Deed) :
    let l' := l.after (d.acts l)
    l'.Steady ∧ (∀ m ∈ l.moves (d.acts l), d.Leads m.1 m.2) ∧
      l'.session.map Session.seat = if d.removes then none else (d.seat? l).or (l.session.map Session.seat) := by
  have hended : ∀ m : Lifecycle × Lifecycle, d.informs → m = (.running, .closed) → d.Leads m.1 m.2 := by
    rintro m hd rfl
    exact .ended hd
  have hremoved : ∀ m : Lifecycle × Lifecycle, d.removes → m.2 = .uninitialized → d.Leads m.1 m.2 := by
    rintro ⟨before, after⟩ hd rfl
    exact .removed hd before
  cases d with
  | start delay endpoint s =>
    obtain ⟨hsteady, hseat⟩ := Lobby.steady_after_start h delay endpoint s
    exact ⟨hsteady, Lobby.moves_start delay endpoint s, hseat⟩
  | reconcile e =>
    refine ⟨Lobby.steady_after_reconcile h e, fun m hm => ?_, Lobby.seat_after_reconcile l e⟩
    exact hended m rfl (Lobby.moves_reconcile h e m hm)
  | reconcileAll es =>
    obtain ⟨hsteady, hmoves⟩ := Lobby.reconcileAll_steps h es
    exact ⟨hsteady, fun m hm => hended m rfl (hmoves m hm), Lobby.seat_after_reconcileAll l es⟩
  | connectionLost reason =>
    refine ⟨⟨h.begun, h.settled, h.ended⟩, fun m hm => ?_, rfl⟩
    simp [Deed.acts, Lobby.connectionLost, Lobby.moves, Lobby.act] at hm
  | abort e =>
    exact ⟨Lobby.steady_removed _, fun m hm => hremoved m rfl (l.moves_removal _ m hm), rfl⟩
  | reset =>
    exact ⟨Lobby.steady_removed _, fun m hm => hremoved m rfl (l.moves_removal _ m hm), rfl⟩

variable {r : Archive}

theorem regular_step (h : r.Regular) (d : Deed) : (r.step d).Regular := by
  obtain ⟨hsteady, hmoves, hseat⟩ := deed_steps h.steady d
  refine ⟨hsteady, fun m hm => ?_, hseat.trans (by rw [h.seat]; rfl)⟩
  rcases List.mem_append.mp hm with hold | hnew
  · exact h.moves m hold
  · obtain ⟨m', hm', rfl⟩ := List.mem_map.mp hnew
    exact hmoves m' hm'

theorem regular_run (h : r.Regular) (ds : List Deed) : (r.run ds).Regular := by
  induction ds generalizing r with
  | nil => exact h
  | cons d ds ih => exact ih (regular_step h d)

/-- Whatever is done with a lobby, its lifecycle only takes the steps above. Between two deeds it is never
pending, there is a session exactly while it is running or closed, and that session has the seat that came
with the last start that succeeded. -/
theorem lifecycle_and_seat (ds : List Deed) :
    let r := begin.run ds
    (∀ m ∈ r.moves, m.1.Leads m.2.1 m.2.2) ∧
    r.lobby.lifecycle ≠ .pending ∧
    (r.lobby.session.isSome ↔ r.lobby.lifecycle = .running ∨ r.lobby.lifecycle = .closed) ∧
    r.lobby.session.map Session.seat = r.seat := by
  intro r
  have h : r.Regular := regular_run regular_begin ds
  refine ⟨h.moves, h.steady.settled, ?_, h.seat⟩
  have hbegun : r.lobby.session.isSome ↔ r.lobby.lifecycle ≠ .uninitialized := by
    rw [Option.isSome_iff_ne_none]
    exact not_congr h.steady.begun.symm
  rw [hbegun]
  cases hl : r.lobby.lifecycle with
  | pending => exact absurd hl h.steady.settled
  | uninitialized | running | closed => simp

/-- A session that is granted, ended by the server and removed. -/
example :
    let grant : Grant := ⟨⟨⟨"a"⟩⟩, ⟨⟨"s"⟩, .pending, []⟩⟩
    let closing : SessionEvent := ⟨⟨⟨"b"⟩⟩, "left", "", ⟨⟨"s"⟩, .closed, []⟩⟩
    (begin.run [.start 0 ⟨[.ok grant], 0⟩ .host, .reconcile closing, .reconcile closing, .reset]).moves.map Prod.snd =
      [(.uninitialized, .pending), (.pending, .running), (.running, .closed), (.closed, .uninitialized)] := by
  decide

end Archive

end PaddleLink
