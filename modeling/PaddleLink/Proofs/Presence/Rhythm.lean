import Mathlib.Data.List.Chain
import PaddleLink.Presence

/-!
The times of the messages of a session, snapshots and heartbeats alike, next to its checks. Checks are one interval
apart while snapshots fall anywhere between them, so almost two intervals may go by without a message, but never two.
-/

namespace PaddleLink

/-- Times of which the first is at most one interval after a beginning, with less than two intervals between each of
them and the next. -/
structure Paced (interval began : Nat) (times : List Nat) : Prop where
  first : ∀ t ∈ times.head?, began ≤ t ∧ t ≤ began + interval
  gaps : times.IsChain fun a b => a ≤ b ∧ b < a + 2 * interval

structure Rhythm (interval began : Nat) (times : List Nat) (lastSnapshot : Option Nat) (next now : Nat) : Prop where
  paced : Paced interval began times
  ahead : now ≤ next
  near : next ≤ now + interval
  silent : times = [] → lastSnapshot = none ∧ next = began + interval
  /-- A snapshot is a message as well. A check that lies more than an interval behind the last message finds a
  heartbeat due. -/
  last : ∀ t ∈ times.getLast?, t ≤ now ∧ (∀ s ∈ lastSnapshot, s ≤ t) ∧ next < t + 2 * interval ∧
    (next ≤ t + interval ∨ heartbeatDue next lastSnapshot interval = true)

namespace Rhythm

variable {interval began next now : Nat} {times : List Nat} {lastSnapshot : Option Nat}

theorem start (interval began : Nat) : Rhythm interval began [] none (began + interval) began where
  paced := ⟨by simp, .nil⟩
  ahead := Nat.le_add_right _ _
  near := Nat.le_refl _
  silent := fun _ => ⟨rfl, rfl⟩
  last := by simp

theorem wait (h : Rhythm interval began times lastSnapshot next now) {later : Nat} (hlater : now ≤ later)
    (hahead : later ≤ next) : Rhythm interval began times lastSnapshot next later where
  paced := h.paced
  ahead := hahead
  near := Nat.le_trans h.near (Nat.add_le_add_right hlater interval)
  silent := h.silent
  last := fun t ht => ⟨Nat.le_trans (h.last t ht).1 hlater, (h.last t ht).2⟩

theorem snapshots_past (h : Rhythm interval began times lastSnapshot next now) : ∀ s ∈ lastSnapshot, s ≤ now := by
  intro s hs
  cases hlast : times.getLast? with
  | none =>
    have hnone := (h.silent (List.getLast?_eq_none_iff.mp hlast)).1
    rw [hnone] at hs
    cases hs
  | some t =>
    obtain ⟨hpast, hbefore, -⟩ := h.last t hlast
    exact Nat.le_trans (hbefore s hs) hpast

/-- A message may come at any time before the next check, and at the time of the check. -/
theorem paced_concat (h : Rhythm interval began times lastSnapshot next now) :
    Paced interval began (times ++ [now]) := by
  refine ⟨?_, ?_⟩
  · cases times with
    | nil =>
      -- the first check has not been passed yet, and it is one interval away from the beginning
      obtain ⟨-, hnext⟩ := h.silent rfl
      have hahead := h.ahead
      have hnear := h.near
      intro t ht
      cases ht
      omega
    | cons first rest => exact h.paced.first
  · rw [List.isChain_append]
    refine ⟨h.paced.gaps, .singleton _, ?_⟩
    intro t ht t' ht'
    cases ht'
    obtain ⟨hpast, -, hnext, -⟩ := h.last t ht
    exact ⟨hpast, Nat.lt_of_le_of_lt h.ahead hnext⟩

theorem snapshot (h : Rhythm interval began times lastSnapshot next now) (hi : 0 < interval) :
    Rhythm interval began (times ++ [now]) (some now) next now where
  paced := h.paced_concat
  ahead := h.ahead
  near := h.near
  silent := by simp
  last := by
    have hnear := h.near
    intro t ht
    rw [List.getLast?_concat] at ht
    cases ht
    exact ⟨Nat.le_refl _, fun s hs => by cases hs; exact Nat.le_refl _, by omega, .inl hnear⟩

/-- A check that lets a heartbeat go out. -/
theorem heartbeat (h : Rhythm interval began times lastSnapshot next now) (hi : 0 < interval) (hnow : next ≤ now) :
    Rhythm interval began (times ++ [now]) lastSnapshot (next + interval) now where
  paced := h.paced_concat
  ahead := Nat.le_add_right_of_le h.ahead
  near := Nat.add_le_add_right hnow interval
  silent := by simp
  last := by
    intro t ht
    rw [List.getLast?_concat] at ht
    cases ht
    exact ⟨Nat.le_refl _, h.snapshots_past, by omega, .inl (Nat.add_le_add_right hnow interval)⟩

/-- A check for which a snapshot stands. The snapshot is young, so the next check will come in time, and by then it
will be old. -/
theorem skip (h : Rhythm interval began times lastSnapshot next now) (hnow : next ≤ now)
    (hdue : heartbeatDue next lastSnapshot interval = false) :
    Rhythm interval began times lastSnapshot (next + interval) now where
  paced := h.paced
  ahead := Nat.le_add_right_of_le h.ahead
  near := Nat.add_le_add_right hnow interval
  silent := by
    intro hnone
    rw [(h.silent hnone).1] at hdue
    cases hdue
  last := by
    intro t ht
    obtain ⟨hpast, hbefore, -, hnear⟩ := h.last t ht
    cases lastSnapshot with
    | none => cases hdue
    | some s =>
      -- the last message is no older than the snapshot, which is younger than one interval
      have hst : s ≤ t := hbefore s rfl
      have hahead := h.ahead
      have hyoung : next - s < interval := Nat.lt_of_not_le (of_decide_eq_false hdue)
      have hold : interval ≤ next + interval - s := by omega
      exact ⟨hpast, hbefore, by omega, .inr (decide_eq_true hold)⟩

/-- There has always been a message lately. -/
theorem awake (h : Rhythm interval began times lastSnapshot next now) :
    (times = [] → now ≤ began + interval) ∧ ∀ t ∈ times.getLast?, now < t + 2 * interval := by
  refine ⟨fun hnone => ?_, fun t ht => ?_⟩
  · rw [← (h.silent hnone).2]
    exact h.ahead
  · exact Nat.lt_of_le_of_lt h.ahead (h.last t ht).2.2.1

end Rhythm

end PaddleLink
