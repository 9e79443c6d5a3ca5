import PaddleLink.Play.Script
import PaddleLink.Proofs.Wire.Text

namespace PaddleLink

open Json

/-- The steps up to a time, time after time, those of one time in the order of the file. -/
def stepsUpTo (steps : List KeyStep) (time : Nat) : List KeyStep :=
  (List.range (time + 1)).flatMap fun t => steps.filter fun s => s.time = t

def InOrder (steps : List KeyStep) : Prop :=
  steps.Pairwise fun a b => a.time ≤ b.time

variable {steps : List KeyStep}

/-- Behind a step that is late all are. -/
theorem late_of_inOrder {a : KeyStep} (h : InOrder (a :: steps)) {time : Nat} (ha : time < a.time) :
    ∀ b ∈ a :: steps, time < b.time := by
  obtain ⟨hfirst, -⟩ := List.pairwise_cons.mp h
  intro b hb
  rcases List.mem_cons.mp hb with rfl | hb
  · exact ha
  · have := hfirst b hb
    omega

theorem takeWhile_eq_filter (h : InOrder steps) (time : Nat) :
    (steps.takeWhile fun s => s.time ≤ time) = steps.filter fun s => s.time ≤ time := by
  induction steps with
  | nil => rfl
  | cons a steps ih =>
    by_cases ha : a.time ≤ time
    · rw [List.takeWhile_cons_of_pos (by simpa using ha), List.filter_cons_of_pos (by simpa using ha), ih h.of_cons]
    · have hlate := late_of_inOrder h (Nat.lt_of_not_le ha)
      rw [List.takeWhile_cons_of_neg (by simpa using ha)]
      symm
      apply List.filter_eq_nil_iff.mpr
      simpa using hlate

theorem dropWhile_eq_filter (h : InOrder steps) (time : Nat) :
    (steps.dropWhile fun s => s.time ≤ time) = steps.filter fun s => time < s.time := by
  induction steps with
  | nil => rfl
  | cons a steps ih =>
    by_cases ha : a.time ≤ time
    · rw [List.dropWhile_cons_of_pos (by simpa using ha), List.filter_cons_of_neg (by simpa using ha), ih h.of_cons]
    · have hlate := late_of_inOrder h (Nat.lt_of_not_le ha)
      rw [List.dropWhile_cons_of_neg (by simpa using ha)]
      symm
      apply List.filter_eq_self.mpr
      simpa using hlate

theorem filter_le_succ (h : InOrder steps) (time : Nat) :
    (steps.filter fun s => s.time ≤ time + 1) =
      (steps.filter fun s => s.time ≤ time) ++ steps.filter fun s => s.time = time + 1 := by
  induction steps with
  | nil => rfl
  | cons a steps ih =>
    have hsteps := ih h.of_cons
    rcases Nat.lt_or_ge time a.time with hlate | hearly
    · have hall := late_of_inOrder h hlate
      have hnone : ((a :: steps).filter fun s => s.time ≤ time) = [] := by
        apply List.filter_eq_nil_iff.mpr
        simpa using hall
      rw [hnone, List.nil_append]
      apply List.filter_congr
      intro b hb
      have := hall b hb
      simp only [decide_eq_decide]
      omega
    · have hsoon : a.time ≤ time + 1 := Nat.le_succ_of_le hearly
      have hother : a.time ≠ time + 1 := by omega
      rw [List.filter_cons_of_pos (by simpa using hsoon), List.filter_cons_of_pos (by simpa using hearly),
        List.filter_cons_of_neg (by simpa using hother), hsteps, List.cons_append]

theorem stepsUpTo_succ (steps : List KeyStep) (time : Nat) :
    stepsUpTo steps (time + 1) = stepsUpTo steps time ++ steps.filter fun s => s.time = time + 1 := by
  rw [stepsUpTo, List.range_succ, List.flatMap_append, List.flatMap_singleton]
  rfl

theorem takeWhile_eq_stepsUpTo (h : InOrder steps) (time : Nat) :
    (steps.takeWhile fun s => s.time ≤ time) = stepsUpTo steps time := by
  rw [takeWhile_eq_filter h]
  induction time with
  | zero =>
    rw [stepsUpTo, List.range_one, List.flatMap_singleton]
    apply List.filter_congr
    intro s _
    simp only [decide_eq_decide]
    omega
  | succ time ih => rw [stepsUpTo_succ, ← ih, filter_le_succ h]

theorem inOrder_ofSteps (steps : List KeyStep) : InOrder (Script.ofSteps steps).pending := by
  have h : (Script.ofSteps steps).pending.Pairwise fun a b => decide (a.time ≤ b.time) = true :=
    List.pairwise_mergeSort (fun a b c => by simpa using Nat.le_trans)
      (fun a b => by simpa using Nat.le_total a.time b.time) steps
  exact h.imp (by simp)

/-- Sorting does not change the order of the steps of one time. -/
theorem filter_time_ofSteps (steps : List KeyStep) (time : Nat) :
    ((Script.ofSteps steps).pending.filter fun s => s.time = time) = steps.filter fun s => s.time = time := by
  let same : KeyStep → Bool := fun s => decide (s.time = time)
  have hequal : (steps.filter same).Pairwise fun a b => decide (a.time ≤ b.time) = true := by
    apply List.pairwise_of_forall_mem_list
    intro a ha b hb
    have hta : a.time = time := by simpa [same] using (List.mem_filter.mp ha).2
    have htb : b.time = time := by simpa [same] using (List.mem_filter.mp hb).2
    rw [hta, htb]
    exact decide_eq_true (Nat.le_refl _)
  have hsub : (steps.filter same).Sublist (Script.ofSteps steps).pending :=
    List.sublist_mergeSort (fun a b c => by simpa using Nat.le_trans)
      (fun a b => by simpa using Nat.le_total a.time b.time) hequal List.filter_sublist
  have hsub' := hsub.filter same
  rw [List.filter_filter, List.filter_congr (fun s _ => Bool.and_self (same s))] at hsub'
  refine (hsub'.eq_of_length ?_).symm
  exact ((List.mergeSort_perm steps _).filter same).length_eq.symm

theorem stepsUpTo_ofSteps (steps : List KeyStep) (time : Nat) :
    stepsUpTo (Script.ofSteps steps).pending time = stepsUpTo steps time := by
  unfold stepsUpTo
  congr 1
  funext t
  exact filter_time_ofSteps steps t

/-- What is due of sorted steps is what there is up to that time, in the order of times and of the file. -/
theorem due_ofSteps (steps : List KeyStep) (time : Nat) : (Script.ofSteps steps).due time = stepsUpTo steps time := by
  rw [Script.due, takeWhile_eq_stepsUpTo (inOrder_ofSteps steps), stepsUpTo_ofSteps]

/-- A text that holds some steps, all of them with known keys, gives these steps, which are sorted. -/
theorem ofText_of_run {text : String} {written : List WrittenStep} {steps : List KeyStep}
    (hread : decodeScript.run text = .ok written) (hsome : written ≠ [])
    (hsteps : written.mapM WrittenStep.step = .ok steps) : Script.ofText text = .ok (.ofSteps steps) := by
  unfold Script.ofText
  rw [hread]
  cases written with
  | nil => exact absurd rfl hsome
  | cons w written =>
    simp only [hsteps]
    rfl

theorem ofText_eq_ok_iff_run {text : String} {script : Script} :
    Script.ofText text = .ok script ↔ ∃ written steps, decodeScript.run text = .ok written ∧ written ≠ [] ∧
      written.mapM WrittenStep.step = .ok steps ∧ script = .ofSteps steps := by
  constructor
  · intro h
    unfold Script.ofText at h
    split at h
    · cases h
    · cases h
    · rename_i written hsome hread
      cases hsteps : written.mapM WrittenStep.step with
      | error e =>
        rw [hsteps] at h
        cases h
      | ok steps =>
        rw [hsteps] at h
        cases h
        exact ⟨written, steps, hread, fun hnone => hsome (hnone ▸ rfl), hsteps, rfl⟩
  · rintro ⟨written, steps, hread, hsome, hsteps, rfl⟩
    exact ofText_of_run hread hsome hsteps

/-- A text that can be read gives the steps that it has, which are sorted. -/
theorem ofText_eq_ok {text : String} {script : Script} (h : Script.ofText text = .ok script) :
    ∃ written steps, decodeScript.run text = .ok written ∧ written.mapM WrittenStep.step = .ok steps ∧
      script = .ofSteps steps := by
  obtain ⟨written, steps, hread, -, hsteps, hscript⟩ := ofText_eq_ok_iff_run.mp h
  exact ⟨written, steps, hread, hsteps, hscript⟩

def WrittenStep.toJson (w : WrittenStep) : Value :=
  .object [("at_ms", .integer w.time.toNat), ("key", .string w.key), ("pressed", .bool w.pressed)]

def scriptText (steps : List WrittenStep) : String :=
  (Value.object [("steps", .array (steps.map WrittenStep.toJson))]).toText

theorem WrittenStep.legible (w : WrittenStep) : w.toJson.Legible := by
  rw [WrittenStep.toJson, legible_object]
  have hpressed : (Value.bool w.pressed).Legible := trivial
  simp [legible_string, legible_uint64, hpressed]

theorem WrittenStep.decode_toTree (w : WrittenStep) : WrittenStep.decode w.toJson.toTree = .ok w := by
  apply decode_object
  · simp
  · have hpressed : boolean (Value.bool w.pressed).toTree = .ok w.pressed := rfl
    exact reads_seq (reads_seq (reads_map _ (reads_field rfl (uint64_toTree w.time)))
      (reads_field rfl (text_toTree w.key))) (reads_fieldOr rfl hpressed)

theorem run_scriptText (steps : List WrittenStep) : decodeScript.run (scriptText steps) = .ok steps := by
  apply run_toText
  · have hsteps := legible_map steps fun w _ => w.legible
    rw [legible_object]
    simpa using hsteps
  · have hsteps := list_toTree steps fun w _ => w.decode_toTree
    apply decode_object
    · simp
    · exact reads_map _ (reads_field rfl hsteps)

/-- A script can be written in any order, and is read with its steps in that of their times. -/
theorem ofText_scriptText {written : List WrittenStep} {steps : List KeyStep} (hsome : written ≠ [])
    (hsteps : written.mapM WrittenStep.step = .ok steps) :
    Script.ofText (scriptText written) = .ok (.ofSteps steps) :=
  ofText_of_run (run_scriptText written) hsome hsteps

end PaddleLink
