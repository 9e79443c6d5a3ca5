import Mathlib.Data.List.Nodup
import Mathlib.Data.List.Perm.Subperm
import PaddleLink.Keyboard

namespace PaddleLink

/-- Two keys never stand for one input. -/
theorem Key.eq_of_input? {k k' : Key} {i : Input} (h : k.input? = some i) (h' : k'.input? = some i) : k = k' := by
  cases k <;> cases h <;> cases k' <;> first | rfl | cases h'

theorem Key.exists_direction_of_input? {k : Key} {i : Input} (h : k.input? = some i) :
    ∃ direction, i = Input.paddle direction i.slot := by
  obtain ⟨⟨direction, slot⟩, -, rfl⟩ := Option.map_eq_some_iff.mp h
  exact ⟨direction, rfl⟩

namespace Keyboard

variable {b : Keyboard}

theorem nodup_press (h : b.held.Nodup) (key : Key) : (b.press key).held.Nodup := by
  unfold press
  split
  · exact h
  · rename_i hfree
    refine List.Nodup.append h (List.nodup_singleton key) ?_
    simpa using hfree

theorem nodup_after (h : b.held.Nodup) (e : KeyEvent) : (b.after e).held.Nodup := by
  cases e with
  | press key => exact nodup_press h key
  | release key => exact h.filter _
  | clear => exact List.nodup_nil
  | focus gained =>
    cases gained with
    | true => exact h
    | false => exact List.nodup_nil

/-- No key is held twice. -/
theorem nodup_foldl_after (h : b.held.Nodup) (es : List KeyEvent) : (es.foldl after b).held.Nodup := by
  induction es generalizing b with
  | nil => exact h
  | cons e es ih => exact ih (nodup_after h e)

theorem nodup_inputs (h : b.held.Nodup) : b.inputs.Nodup :=
  h.filterMap fun _ _ _ hk hk' => Key.eq_of_input? hk hk'

/-- A slot gets at most both directions, each of them once. -/
theorem length_inputsFor_le (h : b.held.Nodup) (slot : Slot) : (b.inputsFor slot).length ≤ 2 := by
  have hnodup : (b.inputsFor slot).Nodup := (nodup_inputs h).filter _
  have hsubset : b.inputsFor slot ⊆ [Input.paddle .up slot, Input.paddle .down slot] := by
    intro i hi
    have hslot := slot_of_mem_inputsFor hi
    obtain ⟨key, -, hkey⟩ := List.mem_filterMap.mp (List.mem_filter.mp hi).1
    obtain ⟨direction, hinput⟩ := Key.exists_direction_of_input? hkey
    rw [hinput, hslot]
    cases direction <;> simp
  exact (List.subperm_of_subset hnodup hsubset).length_le

end Keyboard

end PaddleLink
