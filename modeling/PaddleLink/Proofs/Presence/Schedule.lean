import PaddleLink.Proofs.Transport.Openness

namespace PaddleLink

inductive PulseEvent where
  | snapshot
  | cancel
  | close
  | lose (reason : Option String)
  deriving DecidableEq, Repr

def PulseEvent.closes : PulseEvent → Bool
  | .close | .lose _ => true
  | .snapshot | .cancel => false

structure Timed where
  time : Nat
  /-- Whether it comes before a check that takes place at the same time. -/
  early : Bool
  event : PulseEvent
  deriving DecidableEq, Repr

namespace Timed

def precedes (e : Timed) (check : Nat) : Bool :=
  e.time < check || e.time = check && e.early

def reach (e : Timed) : Nat :=
  if e.early then e.time - 1 else e.time

def Sorted (a b : Timed) : Prop :=
  a.time < b.time ∨ a.time = b.time ∧ (b.early = true → a.early = true)

instance (a b : Timed) : Decidable (a.Sorted b) :=
  inferInstanceAs (Decidable (_ ∨ _))

theorem precedes_iff {e : Timed} {check : Nat} :
    e.precedes check = true ↔ e.time < check ∨ e.time = check ∧ e.early = true := by
  simp [precedes]

theorem precedes_mono {e : Timed} {a b : Nat} (h : e.precedes a = true) (hab : a ≤ b) : e.precedes b = true := by
  rw [precedes_iff] at h ⊢
  rcases h with hlt | ⟨heq, hearly⟩
  · exact .inl (Nat.lt_of_lt_of_le hlt hab)
  · rcases Nat.lt_or_eq_of_le hab with hlt | hsame
    · exact .inl (heq ▸ hlt)
    · exact .inr ⟨heq.trans hsame, hearly⟩

theorem precedes_eq_false_iff {e : Timed} {check : Nat} (hc : 0 < check) :
    e.precedes check = false ↔ check ≤ e.reach := by
  rw [← Bool.not_eq_true, precedes_iff, reach]
  cases e.early with
  | false => simp
  | true =>
    simp only [and_true, if_true]
    omega

theorem not_precedes_of_sorted {a b : Timed} (h : a.Sorted b) {check : Nat} (ha : a.precedes check = false) :
    b.precedes check = false := by
  rw [← Bool.not_eq_true, precedes_iff] at ha ⊢
  intro hb
  apply ha
  rcases h with hlt | ⟨heq, hearly⟩
  · omega
  · exact hb.imp (heq ▸ ·) fun hsame => ⟨heq.trans hsame.1, hearly hsame.2⟩

end Timed

namespace Schedule

def before (es : List Timed) (check : Nat) : List Timed :=
  es.filter fun e => e.precedes check

def Cancelled (es : List Timed) : Prop :=
  ∃ e ∈ es, e.event = .cancel

def Closed (es : List Timed) : Prop :=
  ∃ e ∈ es, e.event.closes = true

def lastSnapshot (es : List Timed) : Option Nat :=
  (es.filter fun e => e.event = .snapshot).getLast?.map Timed.time

/-- Whether the `k`-th check finds no snapshot that is younger than one interval. -/
def Due (es : List Timed) (interval k : Nat) : Prop :=
  ∀ last ∈ lastSnapshot (before es (k * interval)), last ≤ (k - 1) * interval

def Sends (es : List Timed) (interval k : Nat) : Prop :=
  ¬Cancelled (before es (k * interval)) ∧ ¬Closed (before es (k * interval)) ∧ Due es interval k

def Refuses (es : List Timed) (interval k : Nat) : Prop :=
  ¬Cancelled (before es (k * interval)) ∧ Closed (before es (k * interval)) ∧ Due es interval k

instance (es : List Timed) : Decidable (Cancelled es) :=
  inferInstanceAs (Decidable (∃ e ∈ es, e.event = .cancel))

instance (es : List Timed) : Decidable (Closed es) :=
  inferInstanceAs (Decidable (∃ e ∈ es, e.event.closes = true))

instance (es : List Timed) (interval k : Nat) : Decidable (Due es interval k) :=
  inferInstanceAs (Decidable (∀ last ∈ lastSnapshot (before es (k * interval)), last ≤ (k - 1) * interval))

instance (es : List Timed) (interval k : Nat) : Decidable (Sends es interval k) :=
  inferInstanceAs (Decidable (_ ∧ _ ∧ _))

instance (es : List Timed) (interval k : Nat) : Decidable (Refuses es interval k) :=
  inferInstanceAs (Decidable (_ ∧ _ ∧ _))

variable {es : List Timed} {e : Timed}

theorem before_append_of_not_precedes {check : Nat} (h : e.precedes check = false) :
    before (es ++ [e]) check = before es check := by
  simp [before, h]

theorem before_eq_self {check : Nat} (h : ∀ e ∈ es, e.precedes check = true) : before es check = es :=
  List.filter_eq_self.mpr h

theorem before_mono {check check' : Nat} (h : check ≤ check') (he : e ∈ before es check) : e ∈ before es check' := by
  obtain ⟨hmem, hprecedes⟩ := List.mem_filter.mp he
  exact List.mem_filter.mpr ⟨hmem, Timed.precedes_mono hprecedes h⟩

/-- A cancel and a refusal are final. -/
theorem not_sends_of_over {interval k k' : Nat} (h : Cancelled (before es (k * interval)) ∨ Refuses es interval k)
    (hk : k ≤ k') : ¬Sends es interval k' := by
  have hle : k * interval ≤ k' * interval := Nat.mul_le_mul_right interval hk
  rintro ⟨hgoing, hopen, -⟩
  rcases h with ⟨e, he, hcancel⟩ | ⟨-, ⟨e, he, hcloses⟩, -⟩
  · exact hgoing ⟨e, before_mono hle he, hcancel⟩
  · exact hopen ⟨e, before_mono hle he, hcloses⟩

theorem Closed.of_before {check : Nat} (h : Closed (before es check)) : Closed es := by
  obtain ⟨e, he, hcloses⟩ := h
  exact ⟨e, (List.mem_filter.mp he).1, hcloses⟩

theorem cancelled_concat : Cancelled (es ++ [e]) ↔ Cancelled es ∨ e.event = .cancel := by
  simp [Cancelled, or_and_right, exists_or]

theorem closed_concat : Closed (es ++ [e]) ↔ Closed es ∨ e.event.closes = true := by
  simp [Closed, or_and_right, exists_or]

theorem lastSnapshot_concat (es : List Timed) (e : Timed) :
    lastSnapshot (es ++ [e]) = if e.event = .snapshot then some e.time else lastSnapshot es := by
  by_cases he : e.event = .snapshot
  · simp [lastSnapshot, List.filter_append, he]
  · simp [lastSnapshot, List.filter_append, he]

/-- The heartbeats that the first checks let go out, each with its time. -/
def expected (session : SessionId) (player : ActorId) (interval : Nat) (es : List Timed) : Nat → List (Nat × String)
  | 0 => []
  | n + 1 => expected session player interval es n ++
      if Sends es interval (n + 1) then
        [((n + 1) * interval, writeMessage (.heartbeat ⟨session, player, .ofNat ((n + 1) * interval)⟩))]
      else []

section

variable (session : SessionId) (player : ActorId) (interval : Nat)

/-- Only what comes before the checks matters to them. -/
theorem expected_congr {es es' : List Timed} {n : Nat}
    (h : ∀ k, 1 ≤ k → k ≤ n → before es (k * interval) = before es' (k * interval)) :
    expected session player interval es n = expected session player interval es' n := by
  induction n with
  | zero => rfl
  | succ n ih =>
    have hsame : Sends es interval (n + 1) ↔ Sends es' interval (n + 1) := by
      rw [Sends, Sends, Due, Due, h (n + 1) (Nat.succ_pos n) (Nat.le_refl _)]
    rw [expected, expected, ih fun k hk hn => h k hk (Nat.le_succ_of_le hn)]
    simp only [hsame]

/-- Checks that let nothing go out add nothing. -/
theorem expected_of_silence {n n' : Nat} (hn : n ≤ n') (h : ∀ k, n < k → ¬Sends es interval k) :
    expected session player interval es n' = expected session player interval es n := by
  obtain ⟨d, rfl⟩ := Nat.exists_eq_add_of_le hn
  clear hn
  induction d with
  | zero => rfl
  | succ d ih =>
    have hsilent : ¬Sends es interval (n + d + 1) := h _ (by omega)
    rw [← Nat.add_assoc, expected, ih, if_neg hsilent, List.append_nil]

theorem mem_expected {n t : Nat} {text : String} :
    (t, text) ∈ expected session player interval es n ↔
      ∃ k, 1 ≤ k ∧ k ≤ n ∧ t = k * interval ∧ Sends es interval k ∧
        text = writeMessage (.heartbeat ⟨session, player, .ofNat t⟩) := by
  induction n with
  | zero =>
    constructor
    · intro h
      cases h
    · rintro ⟨k, hk, hn, -⟩
      omega
  | succ n ih =>
    rw [expected, List.mem_append, ih]
    constructor
    · rintro (⟨k, hk, hn, hrest⟩ | hnew)
      · exact ⟨k, hk, Nat.le_succ_of_le hn, hrest⟩
      · split at hnew
        · rename_i hsends
          cases List.mem_singleton.mp hnew
          exact ⟨n + 1, Nat.succ_pos n, Nat.le_refl _, rfl, hsends, rfl⟩
        · cases hnew
    · rintro ⟨k, hk, hn, rfl, hsends, rfl⟩
      rcases Nat.lt_or_eq_of_le hn with hlt | rfl
      · exact .inl ⟨k, hk, Nat.le_of_lt_succ hlt, rfl, hsends, rfl⟩
      · rw [if_pos hsends]
        exact .inr (List.mem_singleton_self _)

/-- No two of them go out at one time. -/
theorem expected_increasing (hi : 0 < interval) (n : Nat) :
    ((expected session player interval es n).map Prod.fst).Pairwise (· < ·) := by
  induction n with
  | zero => exact .nil
  | succ n ih =>
    rw [expected, List.map_append, List.pairwise_append]
    refine ⟨ih, ?_, ?_⟩
    · split <;> simp
    · intro t ht t' ht'
      obtain ⟨⟨t, text⟩, hmem, rfl⟩ := List.mem_map.mp ht
      obtain ⟨k, -, hk, rfl, -⟩ := (mem_expected session player interval).mp hmem
      split at ht'
      · cases List.mem_singleton.mp ht'
        exact Nat.mul_lt_mul_of_pos_right (Nat.lt_succ_of_le hk) hi
      · cases ht'

end

end Schedule

end PaddleLink
