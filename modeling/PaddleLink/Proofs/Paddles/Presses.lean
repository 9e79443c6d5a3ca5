import Mathlib.Data.List.Induction
import PaddleLink.Proofs.Paddles.Held

/-!
The held keys, read off the events alone. A key is held exactly when the last event about it is its press, and the
held keys stand in the order in which they came to be held.
-/

namespace PaddleLink

def KeyEvent.isAbout (k : Key) : KeyEvent → Bool
  | .press key => key = k
  | .release key => key = k
  | .clear => true
  | .focus gained => !gained

def lastAbout? (es : List KeyEvent) (k : Key) : Option KeyEvent :=
  (es.filter (KeyEvent.isAbout k)).getLast?

/-- A press that finds its key released; `i` counts the events before it. -/
def IsEffective (es : List KeyEvent) (k : Key) (i : Nat) : Prop :=
  es[i]? = some (.press k) ∧ lastAbout? (es.take i) k ≠ some (.press k)

def IsLastEffective (es : List KeyEvent) (k : Key) (i : Nat) : Prop :=
  IsEffective es k i ∧ ∀ j, IsEffective es k j → j ≤ i

theorem lastAbout?_concat (es : List KeyEvent) (e : KeyEvent) (k : Key) :
    lastAbout? (es ++ [e]) k = if e.isAbout k then some e else lastAbout? es k := by
  unfold lastAbout?
  rw [List.filter_append]
  by_cases h : e.isAbout k = true
  · simp [h]
  · simp [h]

theorem IsEffective.lt_length {es : List KeyEvent} {k : Key} {i : Nat} (h : IsEffective es k i) : i < es.length :=
  (List.getElem?_eq_some_iff.mp h.1).1

/-- One more event adds at most one effective press, at the end. -/
theorem isEffective_concat {es : List KeyEvent} {e : KeyEvent} {k : Key} {i : Nat} :
    IsEffective (es ++ [e]) k i ↔
      IsEffective es k i ∨ i = es.length ∧ e = .press k ∧ lastAbout? es k ≠ some (.press k) := by
  rcases Nat.lt_trichotomy i es.length with hlt | heq | hgt
  · have htake : (es ++ [e]).take i = es.take i := List.take_append_of_le_length (Nat.le_of_lt hlt)
    simp only [IsEffective, List.getElem?_append_left hlt, htake]
    constructor
    · exact .inl
    · rintro (h | ⟨h, -⟩)
      · exact h
      · omega
  · subst heq
    simp [IsEffective]
  · have hnone : ¬IsEffective (es ++ [e]) k i := by
      intro h
      have hlt := h.lt_length
      rw [List.length_append, List.length_singleton] at hlt
      omega
    have hold : ¬IsEffective es k i := fun h => by
      have hlt := h.lt_length
      omega
    simp only [hnone, hold, false_iff, false_or, not_and]
    omega

theorem isLastEffective_of_new {es : List KeyEvent} {k : Key} (h : lastAbout? es k ≠ some (.press k)) {i : Nat} :
    IsLastEffective (es ++ [.press k]) k i ↔ i = es.length := by
  have hend : IsEffective (es ++ [.press k]) k es.length := isEffective_concat.mpr (.inr ⟨rfl, rfl, h⟩)
  constructor
  · intro hi
    have hle := hi.2 es.length hend
    have hlt := hi.1.lt_length
    rw [List.length_append, List.length_singleton] at hlt
    omega
  · rintro rfl
    refine ⟨hend, fun j hj => ?_⟩
    have hlt := hj.lt_length
    rw [List.length_append, List.length_singleton] at hlt
    omega

theorem isLastEffective_of_old {es : List KeyEvent} {e : KeyEvent} {k : Key}
    (h : e = .press k → lastAbout? es k = some (.press k)) {i : Nat} :
    IsLastEffective (es ++ [e]) k i ↔ IsLastEffective es k i := by
  have hsame (j : Nat) : IsEffective (es ++ [e]) k j ↔ IsEffective es k j := by
    rw [isEffective_concat]
    constructor
    · rintro (hj | ⟨-, he, hne⟩)
      · exact hj
      · exact absurd (h he) hne
    · exact .inl
  simp only [IsLastEffective, hsame]

namespace Keyboard

/-- An event about a key decides whether it is held, and any other one leaves it as it was. -/
theorem mem_held_after (b : Keyboard) (e : KeyEvent) (k : Key) :
    k ∈ (b.after e).held ↔ if e.isAbout k then e = .press k else k ∈ b.held := by
  cases e with
  | press key =>
    by_cases hkey : key = k
    · subst hkey
      by_cases hheld : key ∈ b.held <;> simp [after, press, KeyEvent.isAbout, hheld]
    · by_cases hheld : key ∈ b.held <;> simp [after, press, KeyEvent.isAbout, hheld, hkey, Ne.symm hkey]
  | release key =>
    by_cases hkey : key = k
    · simp [after, release, KeyEvent.isAbout, hkey]
    · simp [after, release, KeyEvent.isAbout, hkey, Ne.symm hkey]
  | clear => simp [after, empty, KeyEvent.isAbout]
  | focus gained => cases gained <;> simp [after, empty, KeyEvent.isAbout]

/-- An event puts one more key behind the held ones, or it presses no released key and can only take keys away. -/
theorem after_cases (b : Keyboard) (e : KeyEvent) :
    (∃ k, e = .press k ∧ k ∉ b.held ∧ (b.after e).held = b.held ++ [k]) ∨
      ((∀ k, e = .press k → k ∈ b.held) ∧ (b.after e).held.Sublist b.held) := by
  cases e with
  | press key =>
    by_cases hheld : key ∈ b.held
    · refine .inr ⟨?_, ?_⟩
      · rintro k ⟨⟩
        exact hheld
      · simp [after, press, hheld]
    · exact .inl ⟨key, rfl, hheld, by simp [after, press, hheld]⟩
  | release key => exact .inr ⟨nofun, List.filter_sublist⟩
  | clear => exact .inr ⟨nofun, List.nil_sublist _⟩
  | focus gained =>
    refine .inr ⟨nofun, ?_⟩
    cases gained with
    | true => exact List.Sublist.refl _
    | false => exact List.nil_sublist _

/-- An event is said to change something exactly when some key is held on one side of it only. -/
theorem isChangedBy_iff (b : Keyboard) (e : KeyEvent) :
    b.isChangedBy e = true ↔ ∃ k, ¬(k ∈ (b.after e).held ↔ k ∈ b.held) := by
  have hclear : (!b.held.isEmpty) = true ↔ ∃ k, k ∈ b.held := by
    cases b.held with
    | nil => simp
    | cons k ks => simp
  simp only [mem_held_after]
  cases e with
  | press key =>
    simp only [isChangedBy, decide_eq_true_eq]
    constructor
    · intro hfree
      exact ⟨key, by simp [KeyEvent.isAbout, hfree]⟩
    · rintro ⟨k, hk⟩ hheld
      by_cases hkey : key = k <;> simp_all [KeyEvent.isAbout]
  | release key =>
    simp only [isChangedBy, decide_eq_true_eq]
    constructor
    · intro hheld
      exact ⟨key, by simp [KeyEvent.isAbout, hheld]⟩
    · rintro ⟨k, hk⟩
      by_cases hkey : key = k <;> simp_all [KeyEvent.isAbout]
  | clear => simpa [isChangedBy, KeyEvent.isAbout] using hclear
  | focus gained =>
    cases gained with
    | true => simp [isChangedBy, KeyEvent.isAbout]
    | false => simpa [isChangedBy, KeyEvent.isAbout] using hclear

theorem mem_held_iff (es : List KeyEvent) (k : Key) :
    k ∈ (es.foldl after empty).held ↔ lastAbout? es k = some (.press k) := by
  induction es using List.reverseRecOn with
  | nil => simp [empty, lastAbout?]
  | append_singleton es e ih =>
    rw [List.foldl_concat, mem_held_after, lastAbout?_concat]
    split
    · rw [Option.some.injEq]
    · exact ih

/-- A held key has a last effective press. -/
theorem exists_lastEffective (es : List KeyEvent) :
    ∀ k ∈ (es.foldl after empty).held, ∃ i, IsLastEffective es k i := by
  induction es using List.reverseRecOn with
  | nil => simp [empty]
  | append_singleton es e ih =>
    intro k hk
    rw [List.foldl_concat] at hk
    rcases after_cases (es.foldl after empty) e with ⟨key, rfl, hfree, hheld⟩ | ⟨hpressed, hsub⟩
    · rw [mem_held_iff] at hfree
      by_cases hkey : k = key
      · exact ⟨es.length, by rw [hkey, isLastEffective_of_new hfree]⟩
      · have hold : k ∈ (es.foldl after empty).held := by simpa [hheld, hkey] using hk
        obtain ⟨i, hi⟩ := ih k hold
        refine ⟨i, (isLastEffective_of_old ?_).mpr hi⟩
        rintro ⟨⟩
        exact absurd rfl hkey
    · obtain ⟨i, hi⟩ := ih k (hsub.subset hk)
      exact ⟨i, (isLastEffective_of_old fun he => (mem_held_iff es k).mp (hpressed k he)).mpr hi⟩

/-- The held keys stand in the order of their last effective presses. -/
theorem pairwise_held (es : List KeyEvent) :
    (es.foldl after empty).held.Pairwise fun k l =>
      ∀ i j, IsLastEffective es k i → IsLastEffective es l j → i < j := by
  -- over the events; only a press of a released key adds a key, and it comes later than all presses before it
  induction es using List.reverseRecOn with
  | nil => exact List.Pairwise.nil
  | append_singleton es e ih =>
    rw [List.foldl_concat]
    rcases after_cases (es.foldl after empty) e with ⟨key, rfl, hfree, hheld⟩ | ⟨hpressed, hsub⟩
    · rw [hheld, List.pairwise_append]
      have hother : ∀ k ∈ (es.foldl after empty).held, ∀ i,
          IsLastEffective (es ++ [.press key]) k i ↔ IsLastEffective es k i := by
        intro k hk i
        apply isLastEffective_of_old
        rintro ⟨⟩
        exact absurd hk hfree
      refine ⟨?_, List.pairwise_singleton _ _, ?_⟩
      · refine ih.imp_of_mem ?_
        intro k l hk hl hlt i j hi hj
        exact hlt i j ((hother k hk i).mp hi) ((hother l hl j).mp hj)
      · intro k hk l hl i j hi hj
        rw [List.mem_singleton] at hl
        subst hl
        rw [mem_held_iff] at hfree
        rw [isLastEffective_of_new hfree] at hj
        rw [hj]
        exact ((hother k hk i).mp hi).1.lt_length
    · have hsame (k : Key) (i : Nat) : IsLastEffective (es ++ [e]) k i ↔ IsLastEffective es k i :=
        isLastEffective_of_old fun he => (mem_held_iff es k).mp (hpressed k he)
      simpa only [hsame] using ih.sublist hsub

variable {b : Keyboard}

theorem count_inputs (h : b.held.Nodup) {k : Key} (hk : k ∈ b.held) {i : Input} (hi : k.input? = some i) :
    b.inputs.count i = 1 :=
  List.count_eq_one_of_mem (nodup_inputs h) (List.mem_filterMap.mpr ⟨k, hk, hi⟩)

/-- The inputs of the two slots are all the inputs. -/
theorem inputsFor_perm (b : Keyboard) : (b.inputsFor .one ++ b.inputsFor .two).Perm b.inputs := by
  have htwo : b.inputsFor .two = b.inputs.filter fun i => !decide (i.slot = .one) := by
    refine List.filter_congr fun i _ => ?_
    cases i.slot <;> rfl
  rw [htwo]
  exact List.filter_append_perm _ _

/-- What the keyboard holds is decided by its events. No key stands there twice, the keys stand in the order of their
last effective presses, and a key is held exactly when the last event about it is its press. An event is said to
change something exactly when it does. The inputs are those of the held keys, each of them once, and the two slots
share them out, at most two for each, in their order. -/
theorem held_follows_events (es : List KeyEvent) :
    let b := es.foldl after empty
    b.held.Nodup ∧
    (∀ k ∈ b.held, ∃ i, IsLastEffective es k i) ∧
    b.held.Pairwise (fun k l => ∀ i j, IsLastEffective es k i → IsLastEffective es l j → i < j) ∧
    (∀ k, k ∈ b.held ↔ lastAbout? es k = some (.press k)) ∧
    (∀ e, b.isChangedBy e = true ↔ ∃ k, ¬(k ∈ (b.after e).held ↔ k ∈ b.held)) ∧
    (∀ k ∈ b.held, ∀ i, k.input? = some i → b.inputs.count i = 1) ∧
    (∀ i ∈ b.inputs, ∃ k ∈ b.held, k.input? = some i) ∧
    (b.inputsFor .one ++ b.inputsFor .two).Perm b.inputs ∧
    ∀ slot, (b.inputsFor slot).Nodup ∧ (b.inputsFor slot).length ≤ 2 ∧ (b.inputsFor slot).Sublist b.inputs ∧
      ∀ i, i ∈ b.inputsFor slot ↔ i ∈ b.inputs ∧ i.slot = slot := by
  intro b
  have hnodup : b.held.Nodup := nodup_foldl_after List.nodup_nil es
  refine ⟨hnodup, exists_lastEffective es, pairwise_held es, mem_held_iff es, isChangedBy_iff b,
    fun k hk i hi => count_inputs hnodup hk hi, fun i hi => List.mem_filterMap.mp hi, inputsFor_perm b, ?_⟩
  intro slot
  refine ⟨(nodup_inputs hnodup).filter _, length_inputsFor_le hnodup slot, List.filter_sublist, fun i => ?_⟩
  simp [inputsFor]

end Keyboard

end PaddleLink
