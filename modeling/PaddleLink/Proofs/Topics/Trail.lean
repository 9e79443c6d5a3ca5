import Mathlib.Data.List.Basic
import PaddleLink.Topics

namespace PaddleLink

/-- The same subscribers behind some more, whose streams have ended. -/
structure Multiplexer.Trails (ended : Nat) (m m' : Multiplexer) : Prop where
  closed : m'.closed = m.closed
  count : ended ≤ m'.subscriptions.length
  detached : ∀ i p, i < ended → m'.subscriptions[i]? = some p → p.2.attached = false
  rest : m'.subscriptions.drop ended = m.subscriptions

namespace Multiplexer

variable {n : Nat} {m m' : Multiplexer}

/-- What leaves ended streams ended can be done to all subscribers. -/
theorem Trails.map (h : m.Trails n m') {f : Topic × Subscription Event → Topic × Subscription Event}
    (hf : ∀ p, p.2.attached = false → (f p).2.attached = false) (closed : Bool) :
    Trails n ⟨m.subscriptions.map f, closed⟩ ⟨m'.subscriptions.map f, closed⟩ where
  closed := rfl
  count := by rw [List.length_map]; exact h.count
  detached := by
    intro i p hi hp
    rw [List.getElem?_map] at hp
    obtain ⟨q, hq, rfl⟩ := Option.map_eq_some_iff.mp hp
    exact hf q (h.detached i q hi hq)
  rest := by rw [← h.rest, List.map_drop]

theorem offer_detached {s : Subscription Event} (h : s.attached = false) (batch : List Event) :
    s.offer batch = s := by
  rw [Subscription.offer, if_pos (.inr (by simp [h]))]

theorem Trails.deliver (h : m.Trails n m') (d : Delivery) : (m.deliver d).Trails n (m'.deliver d) := by
  cases d with
  | reconcile events => exact h
  | publish topic events =>
    have hoffered := h.map (f := fun p => (p.1, if p.1 = topic then p.2.offer events else p.2)) ?_ m.closed
    · exact { hoffered with closed := h.closed }
    · intro p hp
      simp only [offer_detached hp events, ite_self]
      exact hp

theorem Trails.deliveries (h : m.Trails n m') (batch : List Event) : m'.deliveries batch = m.deliveries batch := by
  simp only [Multiplexer.deliveries, h.closed]

theorem Trails.counts (h : m.Trails n m') (batch : List Event) : m'.counts batch = m.counts batch := by
  simp only [Multiplexer.counts, h.closed]

theorem Trails.renew (h : m.Trails n m') : m.renew.Trails n m'.renew :=
  h.map (fun _ _ => rfl) false

theorem Trails.subscribe (h : m.Trails n m') (topic : Topic) : (m.subscribe topic).Trails n (m'.subscribe topic) where
  closed := h.closed
  count := by
    rw [Multiplexer.subscribe, List.length_append]
    exact Nat.le_add_right_of_le h.count
  detached := by
    intro i p hi hp
    rw [Multiplexer.subscribe, List.getElem?_append_left (Nat.lt_of_lt_of_le hi h.count)] at hp
    exact h.detached i p hi hp
  rest := by rw [Multiplexer.subscribe, List.drop_append_of_le_length h.count, h.rest]; rfl

/-- What happens to one of the earlier subscribers does not matter. -/
theorem Trails.modify (h : m.Trails n m') {f : Subscription Event → Subscription Event}
    (hf : ∀ s, s.attached = false → (f s).attached = false) (i : Nat) :
    ((if i < n then none else some (i - n)).elim m fun j => m.modify j f).Trails n (m'.modify i f) := by
  have hdetached : ∀ j p, j < n → (m'.modify i f).subscriptions[j]? = some p → p.2.attached = false := by
    intro j p hj hp
    rw [Multiplexer.modify, List.getElem?_modify] at hp
    obtain ⟨q, hq, rfl⟩ := Option.map_eq_some_iff.mp hp
    have hended := h.detached j q hj hq
    split
    · exact hf _ hended
    · exact hended
  have hcount : n ≤ (m'.modify i f).subscriptions.length := by
    rw [Multiplexer.modify, List.length_modify]
    exact h.count
  by_cases hi : i < n
  · rw [if_pos hi]
    refine ⟨h.closed, hcount, hdetached, ?_⟩
    rw [Multiplexer.modify, List.drop_modify_of_lt _ _ _ _ hi]
    exact h.rest
  · rw [if_neg hi]
    refine ⟨h.closed, hcount, hdetached, ?_⟩
    rw [Multiplexer.modify, List.drop_modify_of_ge _ _ _ _ (by omega), h.rest]
    rfl

/-- The subscribers of one client have just ended, and those of another one are none. -/
theorem trails_renew (m : Multiplexer) : empty.Trails m.subscriptions.length m.renew where
  closed := rfl
  count := Nat.le_of_eq (List.length_map _).symm
  detached := by
    intro i p _ hp
    rw [Multiplexer.renew, close, List.getElem?_map] at hp
    obtain ⟨q, -, rfl⟩ := Option.map_eq_some_iff.mp hp
    rfl
  rest := List.drop_eq_nil_of_le (Nat.le_of_eq (List.length_map _))

theorem trails_refl (m : Multiplexer) : m.Trails 0 m :=
  ⟨rfl, Nat.zero_le _, fun _ _ hi => absurd hi (Nat.not_lt_zero _), rfl⟩

end Multiplexer

end PaddleLink
