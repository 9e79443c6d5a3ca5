import PaddleLink.Transport.Handshake

/-!
Which handshakes are of use. A probe sees what was over before its time, and behind the last probe an interval
goes by at whose end nobody looks.
-/

namespace PaddleLink

theorem pollFrom_of_ready (interval : Nat) (ready : Nat → Bool) {left made k : Nat} (hk : k < left)
    (hmissed : ∀ i < k, ready (made + i) = false) (hready : ready (made + k) = true) :
    pollFrom interval ready left made = ⟨some (made + k + 1), made + k + 1, (made + k) * interval⟩ := by
  induction k generalizing left made with
  | zero =>
    obtain ⟨left, rfl⟩ : ∃ n, left = n + 1 := ⟨left - 1, by omega⟩
    rw [pollFrom, show ready made = true from hready, if_pos rfl]
    rfl
  | succ k ih =>
    obtain ⟨left, rfl⟩ : ∃ n, left = n + 1 := ⟨left - 1, by omega⟩
    have hfirst : ready made = false := hmissed 0 (Nat.succ_pos k)
    have hlater : ∀ i < k, ready (made + 1 + i) = false := by
      intro i hi
      rw [Nat.add_assoc, Nat.add_comm 1 i]
      exact hmissed (i + 1) (Nat.succ_lt_succ hi)
    have hmove : made + 1 + k = made + (k + 1) := by omega
    rw [pollFrom, hfirst, if_neg Bool.false_ne_true,
      ih (Nat.lt_of_succ_lt_succ hk) hlater (by rw [hmove]; exact hready), hmove]

theorem pollFrom_of_missed (interval : Nat) (ready : Nat → Bool) {left made : Nat}
    (hmissed : ∀ i < left, ready (made + i) = false) :
    pollFrom interval ready left made = ⟨none, made + left, (made + left) * interval⟩ := by
  induction left generalizing made with
  | zero => rfl
  | succ left ih =>
    have hfirst : ready made = false := hmissed 0 (Nat.succ_pos left)
    have hmove : made + 1 + left = made + (left + 1) := by omega
    rw [pollFrom, hfirst, if_neg Bool.false_ne_true, ih, hmove]
    intro i hi
    rw [Nat.add_assoc, Nat.add_comm 1 i]
    exact hmissed (i + 1) (Nat.succ_lt_succ hi)

variable {policy : RetryPolicy} {ready : Nat → Bool}

/-- The first probe that sees readiness ends the wait. -/
theorem poll_of_ready {k : Nat} (hk : k < policy.attempts) (hmissed : ∀ i < k, ready i = false)
    (hready : ready k = true) : poll policy ready = ⟨some (k + 1), k + 1, k * policy.interval⟩ := by
  have h : poll policy ready = ⟨some (0 + k + 1), 0 + k + 1, (0 + k) * policy.interval⟩ :=
    pollFrom_of_ready policy.interval ready hk (by simpa using hmissed) (by simpa using hready)
  rw [Nat.zero_add] at h
  exact h

/-- In vain every attempt is used, and an interval goes by after each of them. -/
theorem poll_of_missed (hmissed : ∀ i < policy.attempts, ready i = false) :
    poll policy ready = ⟨none, policy.attempts, policy.attempts * policy.interval⟩ := by
  have h : poll policy ready = ⟨none, 0 + policy.attempts, (0 + policy.attempts) * policy.interval⟩ :=
    pollFrom_of_missed policy.interval ready (by simpa using hmissed)
  rw [Nat.zero_add] at h
  exact h

namespace Welcome

variable {w : Welcome} {t : Nat}

theorem isOverBefore_eq (h : w.finished = some t) (time : Nat) : w.isOverBefore time = decide (t < time) := by
  rw [isOverBefore, h]

theorem isOverBefore_iff (time : Nat) : w.isOverBefore time = true ↔ ∃ t, w.finished = some t ∧ t < time := by
  unfold isOverBefore
  cases w.finished with
  | none => simp
  | some t => simp

end Welcome

def RetryPolicy.lastProbe (policy : RetryPolicy) : Nat :=
  (policy.attempts - 1) * policy.interval

theorem establish_reached_iff (w : Welcome) {elapsed : Nat} (h : (establish policy w).elapsed = elapsed) :
    (establish policy w).reached = true ↔ w.result = .ok () ∧ ∃ t, w.finished = some t ∧ t < elapsed := by
  subst h
  rw [← Welcome.isOverBefore_iff, and_comm]
  change (w.isOverBefore (establish policy w).elapsed && _) = true ↔ _
  rw [Bool.and_eq_true]
  apply and_congr_right
  intro _
  cases w.result <;> simp

/-- What is over before the last probe is seen at the next probe. -/
theorem establish_of_seen {w : Welcome} {t : Nat} (hover : w.finished = some t) (ht : t < policy.lastProbe) :
    (establish policy w).result = w.result ∧
      (establish policy w).elapsed = (t / policy.interval + 1) * policy.interval := by
  have hinterval : 0 < policy.interval := Nat.pos_of_mul_pos_left (Nat.zero_lt_of_lt ht)
  have hprobe : t / policy.interval + 1 < policy.attempts := by
    have hfew : t / policy.interval < policy.attempts - 1 := (Nat.div_lt_iff_lt_mul hinterval).mpr ht
    exact Nat.add_lt_of_lt_sub hfew
  have hmissed : ∀ i < t / policy.interval + 1, w.isOverBefore (i * policy.interval) = false := by
    intro i hi
    have hearly : i * policy.interval ≤ t := (Nat.le_div_iff_mul_le hinterval).mp (Nat.le_of_lt_succ hi)
    rw [Welcome.isOverBefore_eq hover]
    exact decide_eq_false (Nat.not_lt.mpr hearly)
  have hready : w.isOverBefore ((t / policy.interval + 1) * policy.interval) = true := by
    rw [Welcome.isOverBefore_eq hover]
    exact decide_eq_true ((Nat.div_lt_iff_lt_mul hinterval).mp (Nat.lt_succ_self _))
  have hpoll : poll policy (fun made => w.isOverBefore (made * policy.interval)) = _ :=
    poll_of_ready hprobe hmissed hready
  constructor
  · rw [establish, hpoll]
  · rw [establish, hpoll]

/-- What is not over before the last probe is not seen at all. -/
theorem establish_of_unseen {w : Welcome} (hlate : ∀ t, w.finished = some t → policy.lastProbe ≤ t) :
    (establish policy w).result = .error (.timeout policy.attempts) ∧
      (establish policy w).elapsed = policy.attempts * policy.interval := by
  have hmissed : ∀ i < policy.attempts, w.isOverBefore (i * policy.interval) = false := by
    intro i hi
    rw [Bool.eq_false_iff, ne_eq, Welcome.isOverBefore_iff]
    rintro ⟨t, hover, ht⟩
    have hlast : i * policy.interval ≤ policy.lastProbe := Nat.mul_le_mul_right _ (Nat.le_sub_one_of_lt hi)
    have := hlate t hover
    omega
  have hpoll : poll policy (fun made => w.isOverBefore (made * policy.interval)) = _ := poll_of_missed hmissed
  constructor
  · rw [establish, hpoll]
    rfl
  · rw [establish, hpoll]

/-- A handshake is used, be it a success or a failure, exactly when it is over before the last probe, and then at the
first probe behind its end. One that is not over by then counts as unanswered when the time of all attempts is up; it is
abandoned, and the server has seen a connection only if the handshake has come to its end in the last interval. -/
theorem handshake_used_until_last_probe (policy : RetryPolicy) (w : Welcome) :
    let h := establish policy w
    (∀ t, w.finished = some t → t < policy.lastProbe →
      h.result = w.result ∧ h.elapsed = (t / policy.interval + 1) * policy.interval ∧
        (h.reached = true ↔ w.result = .ok ())) ∧
    (∀ t, w.finished = some t → policy.lastProbe ≤ t →
      h.result = .error (.timeout policy.attempts) ∧ h.elapsed = policy.attempts * policy.interval ∧
        (h.reached = true ↔ w.result = .ok () ∧ t < policy.attempts * policy.interval)) ∧
    (w.finished = none →
      h.result = .error (.timeout policy.attempts) ∧ h.elapsed = policy.attempts * policy.interval ∧
        h.reached = false) := by
  intro h
  refine ⟨?_, ?_, ?_⟩
  · intro t hover ht
    obtain ⟨hresult, helapsed⟩ := establish_of_seen hover ht
    refine ⟨hresult, helapsed, ?_⟩
    have hinterval : 0 < policy.interval := Nat.pos_of_mul_pos_left (Nat.zero_lt_of_lt ht)
    have hbefore : t < (t / policy.interval + 1) * policy.interval :=
      (Nat.div_lt_iff_lt_mul hinterval).mp (Nat.lt_succ_self _)
    rw [establish_reached_iff w helapsed]
    exact and_iff_left ⟨t, hover, hbefore⟩
  · intro t hover ht
    have hlate : ∀ t', w.finished = some t' → policy.lastProbe ≤ t' := by
      intro t' ht'
      rw [hover] at ht'
      cases ht'
      exact ht
    obtain ⟨hresult, helapsed⟩ := establish_of_unseen hlate
    refine ⟨hresult, helapsed, ?_⟩
    rw [establish_reached_iff w helapsed, hover]
    simp
  · intro hnever
    have hlate : ∀ t, w.finished = some t → policy.lastProbe ≤ t := by
      intro t ht
      rw [hnever] at ht
      cases ht
    obtain ⟨hresult, helapsed⟩ := establish_of_unseen hlate
    refine ⟨hresult, helapsed, ?_⟩
    rw [Bool.eq_false_iff, ne_eq, establish_reached_iff w helapsed, hnever]
    rintro ⟨-, t, ht, -⟩
    cases ht

/-- A success and a failure in time, a success in the last interval, and no answer at all. -/
theorem handshake_used_until_last_probe_at_standard :
    (establish .standard (.delayed 250)).result = .ok () ∧
      (establish .standard (.failing 250 .closed)).result = .error .closed ∧
      (establish .standard (.delayed 950)).result = .error (.timeout 10) ∧
      (establish .standard .silent).result = .error (.timeout 10) ∧ (establish .standard .silent).elapsed = 1000 := by
  have hsoon := (handshake_used_until_last_probe .standard (.delayed 250)).1 250 rfl (by decide)
  have hfailed := (handshake_used_until_last_probe .standard (.failing 250 .closed)).1 250 rfl (by decide)
  have hlate := (handshake_used_until_last_probe .standard (.delayed 950)).2.1 950 rfl (by decide)
  have hnever := (handshake_used_until_last_probe .standard .silent).2.2 rfl
  exact ⟨hsoon.1, hfailed.1, hlate.1, hnever.1, hnever.2.1⟩

/-- A server that takes 950 of the 1000 milliseconds of ten attempts has not answered, as the client sees it. -/
theorem handshake_wasted_in_last_interval :
    ¬∀ (policy : RetryPolicy) (w : Welcome) (t : Nat), 0 < policy.attempts → 0 < policy.interval →
      w.finished = some t → t < policy.attempts * policy.interval → (establish policy w).result = w.result := by
  intro h
  have hused := h .standard (.delayed 950) 950 (by decide) (by decide) rfl (by decide)
  have hwasted : (establish .standard (.delayed 950)).result = .error (.timeout 10) := rfl
  rw [hwasted] at hused
  cases hused

end PaddleLink
