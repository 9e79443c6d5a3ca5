import Mathlib.Data.Nat.Find
import PaddleLink.Proofs.Transport.Polling

namespace PaddleLink

/-- Answers at a time and in a state, and the state behind the answer. -/
abbrev Readiness (σ : Type) :=
  Nat → σ → Bool × σ

structure Wait (σ : Type) where
  state : σ
  now : Nat
  probes : List Nat

/-- Either some probe is the first that sees readiness, or none of them does. -/
theorem poll_cases (policy : RetryPolicy) (ready : Nat → Bool) :
    (∃ k < policy.attempts, (∀ i < k, ready i = false) ∧ poll policy ready = ⟨some (k + 1), k + 1, k * policy.interval⟩) ∨
      (∀ i < policy.attempts, ready i = false) ∧
        poll policy ready = ⟨none, policy.attempts, policy.attempts * policy.interval⟩ := by
  by_cases hsome : ∃ k, k < policy.attempts ∧ ready k = true
  · obtain ⟨hk, hready⟩ := Nat.find_spec hsome
    have hmissed : ∀ i < Nat.find hsome, ready i = false := by
      intro i hi
      rw [Bool.eq_false_iff]
      intro hearlier
      exact Nat.find_min hsome hi ⟨Nat.lt_trans hi hk, hearlier⟩
    exact .inl ⟨Nat.find hsome, hk, hmissed, poll_of_ready hk hmissed hready⟩
  · have hmissed : ∀ i < policy.attempts, ready i = false := by
      intro i hi
      rw [Bool.eq_false_iff]
      intro hready
      exact hsome ⟨i, hi, hready⟩
    exact .inr ⟨hmissed, poll_of_missed hmissed⟩

variable {σ : Type}

namespace Readiness

def stateAfter (ask : Readiness σ) (interval : Nat) (s : σ) : Nat → σ
  | 0 => s
  | n + 1 => (ask (n * interval) (ask.stateAfter interval s n)).2

def answer (ask : Readiness σ) (interval : Nat) (s : σ) (n : Nat) : Bool :=
  (ask (n * interval) (ask.stateAfter interval s n)).1

end Readiness

namespace Wait

def begin (s : σ) : Wait σ :=
  ⟨s, 0, []⟩

def probe (w : Wait σ) (ask : Readiness σ) : Wait σ :=
  ⟨(ask w.now w.state).2, w.now, w.probes ++ [w.now]⟩

def sleep (w : Wait σ) (interval : Nat) : Wait σ :=
  { w with now := w.now + interval }

def run (policy : RetryPolicy) (ask : Readiness σ) :
    (left attempt : Nat) → Wait σ → Except TransportError Nat × Wait σ
  | 0, _, w => (.error policy.timeout, w)
  | left + 1, attempt, w =>
    if (ask w.now w.state).1 then (.ok attempt, w.probe ask)
    else run policy ask left (attempt + 1) ((w.probe ask).sleep policy.interval)

end Wait

def RetryPolicy.wait (policy : RetryPolicy) (ask : Readiness σ) (s : σ) : Except TransportError Nat × Wait σ :=
  Wait.run policy ask policy.attempts 1 (Wait.begin s)

namespace Wait

variable (policy : RetryPolicy) (ask : Readiness σ) (s : σ)

def after (probes now : Nat) : Wait σ :=
  ⟨ask.stateAfter policy.interval s probes, now, (List.range probes).map (· * policy.interval)⟩

theorem length_probes_after (probes now : Nat) : (after policy ask s probes now).probes.length = probes := by
  simp [after]

theorem probe_after (n : Nat) :
    (after policy ask s n (n * policy.interval)).probe ask = after policy ask s (n + 1) (n * policy.interval) := by
  simp [after, probe, Readiness.stateAfter, List.range_succ]

theorem sleep_after (n : Nat) :
    (after policy ask s (n + 1) (n * policy.interval)).sleep policy.interval =
      after policy ask s (n + 1) ((n + 1) * policy.interval) := by
  simp [after, sleep, Nat.succ_mul]

def outcome (p : Polling) : Except TransportError Nat :=
  match p.attempt with
  | some attempt => .ok attempt
  | none => .error policy.timeout

theorem toOption_outcome (p : Polling) : (outcome policy p).toOption = p.attempt := by
  unfold outcome
  cases p.attempt <;> rfl

theorem run_after (left made : Nat) :
    run policy ask left (made + 1) (after policy ask s made (made * policy.interval)) =
      let p := pollFrom policy.interval (ask.answer policy.interval s) left made
      (outcome policy p, after policy ask s p.probes p.elapsed) := by
  induction left generalizing made with
  | zero => rfl
  | succ left ih =>
    rw [run, pollFrom]
    change (if ask.answer policy.interval s made = true then _ else _) = _
    cases ask.answer policy.interval s made with
    | true =>
      rw [if_pos rfl, probe_after]
      rfl
    | false =>
      rw [if_neg Bool.false_ne_true, probe_after, sleep_after, ih]
      rfl

/-- Probe by probe, a wait comes to what `poll` says of the answers. -/
theorem wait_eq :
    policy.wait ask s =
      let p := poll policy (ask.answer policy.interval s)
      (outcome policy p, after policy ask s p.probes p.elapsed) := by
  have hbegin : begin s = after policy ask s 0 (0 * policy.interval) := by
    simp [begin, after, Readiness.stateAfter]
  rw [RetryPolicy.wait, hbegin]
  exact run_after policy ask s policy.attempts 0

/-- A wait ends with the first probe that sees readiness. The probes are an interval apart. If `k` probes miss and the
next one, within the attempts, sees readiness, the wait is over at its time with its number, and no further probe is
made. If all attempts miss, the wait fails when an interval has gone by behind the last of them. That is what `poll`
makes of the answers. -/
theorem wait_ends_at_first_readiness :
    let answer := ask.answer policy.interval s
    let r := policy.wait ask s
    (∀ k < policy.attempts, (∀ i < k, answer i = false) → answer k = true →
      r = (.ok (k + 1), ⟨ask.stateAfter policy.interval s (k + 1), k * policy.interval,
        (List.range (k + 1)).map (· * policy.interval)⟩)) ∧
    ((∀ i < policy.attempts, answer i = false) →
      r = (.error (.timeout policy.attempts), ⟨ask.stateAfter policy.interval s policy.attempts,
        policy.attempts * policy.interval, (List.range policy.attempts).map (· * policy.interval)⟩)) ∧
    (∀ i, i + 1 < r.2.probes.length → answer i = false) ∧
    poll policy answer = ⟨r.1.toOption, r.2.probes.length, r.2.now⟩ := by
  intro answer r
  have hr : r = (outcome policy (poll policy answer),
      after policy ask s (poll policy answer).probes (poll policy answer).elapsed) := wait_eq policy ask s
  refine ⟨?_, ?_, ?_, ?_⟩
  · intro k hk hmissed hready
    rw [hr, poll_of_ready hk hmissed hready]
    rfl
  · intro hmissed
    rw [hr, poll_of_missed hmissed]
    rfl
  -- a probe with another one behind it is not the last, and so has missed
  · intro i hi
    rw [hr, length_probes_after] at hi
    rcases poll_cases policy answer with ⟨k, hk, hmissed, hpoll⟩ | ⟨hmissed, hpoll⟩
    · rw [hpoll] at hi
      exact hmissed i (Nat.lt_of_succ_lt_succ hi)
    · rw [hpoll] at hi
      exact hmissed i (Nat.lt_of_succ_lt hi)
  · rw [hr, toOption_outcome, length_probes_after]
    rfl

end Wait

end PaddleLink
