import Mathlib.Data.List.Nodup
import PaddleLink.Proofs.Lobby.History
import PaddleLink.Proofs.Wire.RoundTrip

namespace PaddleLink

namespace NetworkSession

/-- There are at most two players, in different slots, so that the player in a slot is the only one there. -/
structure KeepsLimits (s : NetworkSession) : Prop where
  few : s.players.length ≤ maxPlayers
  apart : (s.players.map Player.slot).Nodup
  alone : ∀ slot, s.players.filter (fun p => p.slot = slot) = (s.playerIn slot).toList

theorem rosterViolation?_eq_none_iff {players : List Player} :
    rosterViolation? players = none ↔ players.length ≤ maxPlayers ∧ (players.map Player.slot).Nodup := by
  unfold rosterViolation?
  match players with
  | [] | [_] | [_, _] => simp [maxPlayers]
  | _ :: _ :: _ :: _ => simp [maxPlayers]

/-- Of players in different slots only the first one that is found in a slot is in it. -/
theorem filter_slot_eq_find? {players : List Player} (h : (players.map Player.slot).Nodup) (slot : Slot) :
    players.filter (fun p => p.slot = slot) = (players.find? fun p => p.slot = slot).toList := by
  induction players with
  | nil => rfl
  | cons p players ih =>
    obtain ⟨hnew, hrest⟩ := List.nodup_cons.mp h
    by_cases hp : p.slot = slot
    · have hnone : players.filter (fun q => q.slot = slot) = [] := by
        rw [List.filter_eq_nil_iff]
        intro q hq hslot
        have hsame : q.slot = p.slot := (of_decide_eq_true hslot).trans hp.symm
        exact hnew (List.mem_map.mpr ⟨q, hq, hsame⟩)
      rw [List.filter_cons_of_pos (by simpa using hp), List.find?_cons_of_pos (by simpa using hp), hnone]
      rfl
    · rw [List.filter_cons_of_neg (by simpa using hp), List.find?_cons_of_neg (by simpa using hp), ih hrest]

theorem keepsLimits_iff {s : NetworkSession} : s.KeepsLimits ↔ rosterViolation? s.players = none := by
  rw [rosterViolation?_eq_none_iff]
  exact ⟨fun h => ⟨h.few, h.apart⟩, fun h => ⟨h.1, h.2, filter_slot_eq_find? h.2⟩⟩

end NetworkSession

/-- A session that was begun with a grant. Its players keep the limits, or they are still those of the grant. -/
structure Grant.Covers (g : Grant) (s : NetworkSession) : Prop where
  id : s.id = g.session.id
  me : s.me = g.actor
  players : s.KeepsLimits ∨ s.players = g.session.players

namespace Grant

variable {g : Grant} {s : NetworkSession}

theorem covers_sessionAs (g : Grant) (role : Role) : g.Covers (g.sessionAs role) where
  id := rfl
  me := rfl
  players := .inr rfl

/-- Only the players of a grant that breaks the limits break them. -/
theorem Covers.keepsLimits_iff (h : g.Covers s) :
    s.KeepsLimits ↔ (s.players = g.session.players → rosterViolation? g.session.players = none) := by
  constructor
  · intro hkeeps hsame
    rw [← hsame]
    exact NetworkSession.keepsLimits_iff.mp hkeeps
  · intro hgranted
    rcases h.players with hkeeps | hsame
    · exact hkeeps
    · rw [NetworkSession.keepsLimits_iff, hsame]
      exact hgranted hsame

theorem Covers.update (h : g.Covers s) {r : SessionReport} (hr : rosterViolation? r.players = none) :
    g.Covers (s.update r) where
  id := h.id
  me := h.me
  players := .inl (NetworkSession.keepsLimits_iff.mpr hr)

end Grant

namespace Lobby

variable {l : Lobby} {g? : Option Grant}

def IsUnder (l : Lobby) (g? : Option Grant) : Prop :=
  ∀ s, l.session = some (.network s) → ∃ g, g? = some g ∧ g.Covers s

theorem isUnder_of_session {l' : Lobby} (h : l.IsUnder g?) (hs : l'.session = l.session) : l'.IsUnder g? :=
  fun s hs' => h s (hs ▸ hs')

theorem isUnder_of_no_network (hs : ∀ s, l.session ≠ some (.network s)) : l.IsUnder g? :=
  fun s hs' => absurd hs' (hs s)

theorem isUnder_granted {g : Grant} {role : Role} (hs : l.session = some (.network (g.sessionAs role))) :
    l.IsUnder (some g) := by
  intro s hs'
  rw [hs] at hs'
  cases hs'
  exact ⟨g, rfl, g.covers_sessionAs role⟩

theorem IsUnder.reconcile (h : l.IsUnder g?) {e : SessionEvent} (he : rosterViolation? e.session.players = none) :
    (l.after (l.reconcile e).acts).IsUnder g? := by
  rw [after_reconcile]
  cases hs : l.sessionFor e with
  | error stale => exact h
  | ok s =>
    intro s' hs'
    cases hs'
    obtain ⟨g, hg, hcovers⟩ := h s (of_sessionFor_eq_ok hs).1
    exact ⟨g, hg, hcovers.update he⟩

theorem IsUnder.reconcileAll (h : l.IsUnder g?) {es : List SessionEvent}
    (hes : ∀ e ∈ es, rosterViolation? e.session.players = none) : (l.after (l.reconcileAll es)).IsUnder g? := by
  induction es generalizing l with
  | nil => exact h
  | cons e es ih =>
    obtain ⟨he, hrest⟩ := List.forall_mem_cons.mp hes
    rw [Lobby.reconcileAll, after_append]
    exact ih (h.reconcile he) hrest

end Lobby

def SessionEvent.IsRead (e : SessionEvent) : Prop :=
  ∃ text events, readFrame text = .ok events ∧ Event.session e ∈ events

theorem SessionEvent.IsRead.keepsLimits {e : SessionEvent} (h : e.IsRead) :
    rosterViolation? e.session.players = none := by
  obtain ⟨text, events, hread, he⟩ := h
  exact (usable_of_readFrame hread _ he).1

namespace Deed

def IsRead : Deed → Prop
  | .reconcile e => e.IsRead
  | .reconcileAll es => ∀ e ∈ es, e.IsRead
  | _ => True

def grant? (l : Lobby) : Deed → Option Grant
  | .start _ endpoint s =>
    if l.lifecycle = .uninitialized ∧ s.request?.isSome then endpoint.answer.toOption else none
  | _ => none

end Deed

/-- A lobby, and the grant that its last session with a server was begun with. -/
structure Tenure where
  lobby : Lobby
  grant : Option Grant

namespace Tenure

def begin : Tenure :=
  ⟨.initial, none⟩

def step (r : Tenure) (d : Deed) : Tenure where
  lobby := r.lobby.after (d.acts r.lobby)
  grant := (d.grant? r.lobby).or r.grant

def run (r : Tenure) (ds : List Deed) : Tenure :=
  ds.foldl step r

theorem isUnder_step {r : Tenure} (h : r.lobby.IsUnder r.grant) {d : Deed} (hd : d.IsRead) :
    (r.step d).lobby.IsUnder (r.step d).grant := by
  cases d with
  | start delay endpoint s =>
    change (r.lobby.after (r.lobby.start delay endpoint s).acts).IsUnder (((Deed.start delay endpoint s).grant? _).or _)
    have houtcome := r.lobby.startOutcome delay endpoint s
    revert houtcome
    generalize r.lobby.start delay endpoint s = course
    intro houtcome
    rw [Deed.grant?]
    cases houtcome with
    | busy hl =>
      rw [if_neg fun hstart => hl hstart.1]
      exact h
    | solo acts hl hs after => exact Lobby.isUnder_of_no_network (by simp [after])
    | granted acts request g hl hrequest answer after =>
      rw [if_pos ⟨hl, by rw [hrequest]; rfl⟩, answer]
      exact Lobby.isUnder_granted (by rw [after])
    | failed acts request e hl hrequest answer after =>
      rw [if_pos ⟨hl, by rw [hrequest]; rfl⟩, answer]
      exact Lobby.isUnder_of_session h (by rw [after])
  | reconcile e => exact h.reconcile hd.keepsLimits
  | reconcileAll es => exact h.reconcileAll fun e he => (hd e he).keepsLimits
  | connectionLost reason => exact Lobby.isUnder_of_session h rfl
  | abort e | reset => exact Lobby.isUnder_of_no_network fun s hs => by cases hs

theorem isUnder_run {r : Tenure} (h : r.lobby.IsUnder r.grant) {ds : List Deed} (hds : ∀ d ∈ ds, d.IsRead) :
    (r.run ds).lobby.IsUnder (r.run ds).grant := by
  induction ds generalizing r with
  | nil => exact h
  | cons d ds ih =>
    obtain ⟨hd, hrest⟩ := List.forall_mem_cons.mp hds
    exact ih (isUnder_step h hd) hrest

end Tenure

end PaddleLink
