import PaddleLink.Proofs.Play.Document

namespace PaddleLink

variable {steps : List KeyStep}

def Script.released (s : Script) : List Nat → List (List KeyStep)
  | [] => []
  | time :: times => s.due time :: (s.rest time).released times

def stepsUpTo? (steps : List KeyStep) : Option Nat → List KeyStep
  | some time => stepsUpTo steps time
  | none => []

theorem InOrder.filter (h : InOrder steps) (p : KeyStep → Bool) : InOrder (steps.filter p) :=
  List.Pairwise.filter p h

/-- What is due at one of several times is what is due at the first one and, of the rest, at the others. -/
theorem filter_le_append (h : InOrder steps) (time : Nat) (p : KeyStep → Bool) :
    (steps.filter fun s => s.time ≤ time) ++ (steps.filter fun s => time < s.time).filter p =
      steps.filter fun s => s.time ≤ time || p s := by
  have hparts : (steps.filter fun s => s.time ≤ time) ++ (steps.filter fun s => time < s.time) = steps := by
    rw [← takeWhile_eq_filter h, ← dropWhile_eq_filter h, List.takeWhile_append_dropWhile]
  have hearly : ((steps.filter fun s => s.time ≤ time).filter fun s => s.time ≤ time || p s) =
      steps.filter fun s => s.time ≤ time := by
    apply List.filter_eq_self.mpr
    intro s hs
    rw [(List.mem_filter.mp hs).2, Bool.true_or]
  have hlate : ((steps.filter fun s => time < s.time).filter fun s => s.time ≤ time || p s) =
      (steps.filter fun s => time < s.time).filter p := by
    apply List.filter_congr
    intro s hs
    have hs : time < s.time := by simpa using (List.mem_filter.mp hs).2
    rw [decide_eq_false (Nat.not_le.mpr hs), Bool.false_or]
  calc (steps.filter fun s => s.time ≤ time) ++ (steps.filter fun s => time < s.time).filter p
    _ = ((steps.filter fun s => s.time ≤ time) ++ steps.filter fun s => time < s.time).filter
          fun s => s.time ≤ time || p s := by rw [List.filter_append, hearly, hlate]
    _ = steps.filter fun s => s.time ≤ time || p s := by rw [hparts]

namespace Script

theorem length_released (s : Script) (times : List Nat) : (s.released times).length = times.length := by
  induction times generalizing s with
  | nil => rfl
  | cons time times ih => rw [released, List.length_cons, List.length_cons, ih]

/-- All that is released are the steps that one of the times reaches. -/
theorem flatten_released (h : InOrder steps) (times : List Nat) :
    (Script.released ⟨steps⟩ times).flatten = steps.filter fun s => times.any fun time => s.time ≤ time := by
  induction times generalizing steps with
  | nil => simp [released]
  | cons time times ih =>
    rw [released, List.flatten_cons, rest, dropWhile_eq_filter h, ih (h.filter _), due, takeWhile_eq_filter h,
      filter_le_append h]
    simp only [List.any_cons]

/-- At each time the steps are released that it reaches and no earlier time has reached. -/
theorem getElem?_released (h : InOrder steps) {times : List Nat} {i time : Nat} (ht : times[i]? = some time) :
    (Script.released ⟨steps⟩ times)[i]? =
      some ((steps.filter fun s => s.time ≤ time).filter fun s => (times.take i).all fun early => early < s.time) := by
  induction times generalizing steps i with
  | nil => cases ht
  | cons first times ih =>
    cases i with
    | zero =>
      cases ht
      rw [released, List.getElem?_cons_zero, due, takeWhile_eq_filter h]
      simp
    | succ i =>
      rw [released, List.getElem?_cons_succ, rest, dropWhile_eq_filter h, ih (h.filter _) ht, List.take_succ_cons]
      -- what is left after the first time is later than it
      simp only [List.filter_filter, List.all_cons]
      congr 2
      funext s
      cases decide (s.time ≤ time) <;> cases decide (first < s.time) <;> simp

theorem filter_le_ofSteps (steps : List KeyStep) (time : Nat) :
    ((ofSteps steps).pending.filter fun s => s.time ≤ time) = stepsUpTo steps time := by
  rw [← takeWhile_eq_filter (inOrder_ofSteps steps)]
  exact due_ofSteps steps time

theorem flatten_released_ofSteps (steps : List KeyStep) (times : List Nat) :
    ((ofSteps steps).released times).flatten = stepsUpTo? steps times.max? := by
  have hall : ((ofSteps steps).released times).flatten = _ := flatten_released (inOrder_ofSteps steps) times
  rw [hall]
  cases hmax : times.max? with
  | none =>
    rw [List.max?_eq_none_iff] at hmax
    subst hmax
    exact List.filter_eq_nil_iff.mpr fun _ _ => by simp
  | some last =>
    rw [stepsUpTo?, ← filter_le_ofSteps]
    obtain ⟨hmem, hlast⟩ := List.max?_eq_some_iff.mp hmax
    apply List.filter_congr
    intro s _
    rw [Bool.eq_iff_iff, List.any_eq_true, decide_eq_true_eq]
    constructor
    · rintro ⟨time, htime, hs⟩
      exact Nat.le_trans (of_decide_eq_true hs) (hlast time htime)
    · intro hs
      exact ⟨last, hmem, decide_eq_true hs⟩

theorem getElem?_released_ofSteps (steps : List KeyStep) {times : List Nat} {i time : Nat} (ht : times[i]? = some time) :
    ((ofSteps steps).released times)[i]? =
      some ((stepsUpTo steps time).filter fun s => (times.take i).all fun early => early < s.time) := by
  rw [← filter_le_ofSteps]
  exact getElem?_released (inOrder_ofSteps steps) ht

/-- Every step of a script is released once, at the first time that reaches it. A text is a script exactly when it is a
document with at least one step, each with a key of a known name, and no step is lost. However often and for whatever
times one asks what is due, all that one gets together are the steps up to the latest of these times, in the order of
their times and of the file, and each answer has those that no earlier time has reached. -/
theorem steps_released_once :
    (∀ written, IsScriptOf (scriptText written) written) ∧
    ∀ text,
      ((∃ script, ofText text = .ok script) ↔
        ∃ written, IsScriptOf text written ∧ written ≠ [] ∧ ∀ w ∈ written, ∃ k : Key, k.IsCalled w.key) ∧
      ∀ script, ofText text = .ok script →
        ∃ written steps, IsScriptOf text written ∧ List.Forall₂ WrittenStep.Says written steps ∧
          script.pending.Perm steps ∧
          ∀ times : List Nat,
            (script.released times).length = times.length ∧
            (script.released times).flatten = stepsUpTo? steps times.max? ∧
            ∀ i time, times[i]? = some time →
              (script.released times)[i]? =
                some ((stepsUpTo steps time).filter fun s => (times.take i).all fun early => early < s.time) := by
  refine ⟨isScriptOf_scriptText, fun text => ⟨exists_ofText_iff, ?_⟩⟩
  intro script hscript
  obtain ⟨written, steps, hread, -, hsays, rfl⟩ := ofText_eq_ok_iff.mp hscript
  refine ⟨written, steps, hread, hsays, List.mergeSort_perm _ _, ?_⟩
  intro times
  refine ⟨length_released _ times, flatten_released_ofSteps steps times, ?_⟩
  intro i time ht
  exact getElem?_released_ofSteps steps ht

end Script

end PaddleLink
