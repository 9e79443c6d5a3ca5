import PaddleLink.Proofs.Json.Records
import PaddleLink.Proofs.Play.Script

namespace PaddleLink

open Json

def scriptNames : List (String × Key) :=
  [("w", .w), ("keyw", .w), ("s", .s), ("keys", .s), ("up", .arrowUp), ("arrowup", .arrowUp), ("down", .arrowDown),
    ("arrowdown", .arrowDown), ("space", .space), ("escape", .escape), ("esc", .escape)]

def SameLetters (a b : String) : Prop :=
  a.toList.map Char.toLower = b.toList.map Char.toLower

def Key.IsCalled (k : Key) (name : String) : Prop :=
  ∃ known, (known, k) ∈ scriptNames ∧ SameLetters name known

theorem toLower_scriptNames : ∀ p ∈ scriptNames, p.1.toList.map Char.toLower = p.1.toList := by
  decide

theorem lookup_scriptNames : ∀ p ∈ scriptNames, scriptNames.lookup p.1 = some p.2 := by
  decide

theorem scriptKey?_eq_lookup (name : String) :
    scriptKey? name = scriptNames.lookup (String.ofList (name.toList.map Char.toLower)) := by
  unfold scriptKey?
  generalize String.ofList (name.toList.map Char.toLower) = small
  split
  case h_12 =>
    symm
    apply List.lookup_eq_none_iff.mpr
    simp_all [scriptNames]
  all_goals rfl

theorem scriptKey?_eq_some_iff {name : String} {k : Key} : scriptKey? name = some k ↔ k.IsCalled name := by
  rw [scriptKey?_eq_lookup]
  constructor
  · intro h
    obtain ⟨before, after, hnames, -⟩ := List.lookup_eq_some_iff.mp h
    have hmem : (String.ofList (name.toList.map Char.toLower), k) ∈ scriptNames := by simp [hnames]
    refine ⟨_, hmem, ?_⟩
    have hsmall := toLower_scriptNames _ hmem
    rw [String.toList_ofList] at hsmall
    rw [SameLetters, String.toList_ofList, hsmall]
  · rintro ⟨known, hmem, hsame⟩
    have hknown : String.ofList (name.toList.map Char.toLower) = known := by
      rw [hsame, toLower_scriptNames _ hmem, String.ofList_toList]
    rw [hknown]
    exact lookup_scriptNames _ hmem

/-- A step that is found in its fields. A key is pressed where nothing else is said. -/
structure WrittenStep.IsIn (w : WrittenStep) (look : String → Option Tree) : Prop where
  time : look "at_ms" = some (.number (.ok (.integer w.time.toNat)))
  key : look "key" = some (.string (.ok w.key))
  pressed : look "pressed" = some (.bool w.pressed) ∨ look "pressed" = none ∧ w.pressed = true

structure WrittenStep.Says (w : WrittenStep) (s : KeyStep) : Prop where
  time : s.time = w.time.toNat
  key : s.key.IsCalled w.key
  pressed : s.pressed = w.pressed

/-- What a step is read from: an object with its fields in any order among others, or an array of them. -/
inductive WrittenStep.IsReadFrom (w : WrittenStep) : Tree → Prop where
  | object {members : List (Name × Tree)} (only : OneEach ["at_ms", "key", "pressed"] members)
      (h : w.IsIn (member? members)) : IsReadFrom w (.object members .closed)
  | array : IsReadFrom w
      (.array [.number (.ok (.integer w.time.toNat)), .string (.ok w.key), .bool w.pressed] .closed)
  | shortArray (h : w.pressed = true) : IsReadFrom w
      (.array [.number (.ok (.integer w.time.toNat)), .string (.ok w.key)] .closed)

namespace WrittenStep

def record : Record WrittenStep :=
  mk <$> field "at_ms" uint64 <*> field "key" text <*> fieldOr "pressed" true boolean

theorem decode_eq : decode = record.decode "RawStep" :=
  rfl

theorem reads_iff {look : String → Option Tree} {w : WrittenStep} : record.Reads look w ↔ w.IsIn look := by
  simp only [record, reads_seq_iff, reads_map_iff, reads_field_iff, reads_fieldOr_iff, uint64_eq_ok_iff, text_eq_ok_iff,
    boolean_eq_ok_iff]
  constructor
  · rintro ⟨_, pressed, ⟨_, key, ⟨time, ⟨_, htime, rfl⟩, rfl⟩, ⟨_, hkey, rfl⟩, rfl⟩, hpressed, rfl⟩
    refine ⟨htime, hkey, ?_⟩
    rcases hpressed with ⟨hnone, rfl⟩ | ⟨_, hpressed, rfl⟩
    · exact .inr ⟨hnone, rfl⟩
    · exact .inl hpressed
  · rintro ⟨htime, hkey, hpressed⟩
    refine ⟨_, w.pressed, ⟨_, w.key, ⟨w.time, ⟨_, htime, rfl⟩, rfl⟩, ⟨_, hkey, rfl⟩, rfl⟩, ?_, rfl⟩
    rcases hpressed with hpressed | ⟨hnone, htrue⟩
    · exact .inr ⟨_, hpressed, rfl⟩
    · exact .inl ⟨hnone, htrue⟩

theorem decode_eq_ok_iff {t : Tree} {w : WrittenStep} : decode t = .ok w ↔ w.IsReadFrom t := by
  have hnames : (record.fields.map Json.Field.name).Nodup := by decide
  rw [decode_eq, Record.decode_eq_ok_iff hnames]
  simp only [reads_iff]
  constructor
  · rintro (⟨members, rfl, honly, hread⟩ | ⟨items, rfl, hlength, hoptional, hread⟩)
    · exact .object honly hread
    · obtain ⟨htime, hkey, hpressed⟩ := hread
      match items with
      | [] => cases htime
      | [a] => cases hkey
      | [a, b] =>
        cases htime
        cases hkey
        rcases hpressed with hpressed | ⟨-, htrue⟩
        · cases hpressed
        · exact .shortArray htrue
      | [a, b, c] =>
        cases htime
        cases hkey
        rcases hpressed with hpressed | ⟨hnone, -⟩
        · cases hpressed
          exact .array
        · cases hnone
      | _ :: _ :: _ :: _ :: rest =>
        have hfew : rest.length + 1 + 1 + 1 + 1 ≤ 3 := hlength
        omega
  · intro h
    cases h with
    | object honly hread => exact .inl ⟨_, rfl, honly, hread⟩
    | array => exact .inr ⟨_, rfl, Nat.le_refl 3, nofun, rfl, rfl, .inl rfl⟩
    | shortArray h =>
      refine .inr ⟨_, rfl, Nat.le_succ 2, ?_, rfl, rfl, .inr ⟨rfl, h⟩⟩
      intro f hf
      cases List.mem_singleton.mp hf
      rfl

theorem step_eq_ok_iff {w : WrittenStep} {s : KeyStep} : w.step = .ok s ↔ w.Says s := by
  unfold step
  constructor
  · intro h
    split at h
    · rename_i key hkey
      cases h
      exact ⟨rfl, scriptKey?_eq_some_iff.mp hkey, rfl⟩
    · cases h
  · rintro ⟨htime, hkey, hpressed⟩
    rw [scriptKey?_eq_some_iff.mpr hkey, ← htime, ← hpressed]

end WrittenStep

/-- What the steps of a script are read from: an object with a list of them, or an array with the list alone. -/
inductive HoldsSteps (written : List WrittenStep) : Tree → Prop where
  | object {members : List (Name × Tree)} {items : List Tree} (only : OneEach ["steps"] members)
      (found : member? members "steps" = some (.array items .closed))
      (h : List.Forall₂ (fun t w => WrittenStep.IsReadFrom w t) items written) :
      HoldsSteps written (.object members .closed)
  | array {items : List Tree} (h : List.Forall₂ (fun t w => WrittenStep.IsReadFrom w t) items written) :
      HoldsSteps written (.array [.array items .closed] .closed)

def IsScriptOf (text : String) (written : List WrittenStep) : Prop :=
  ∃ root, Document.ofString text = ⟨root, false⟩ ∧ HoldsSteps written root

def stepList : Record (List WrittenStep) :=
  id <$> field "steps" (Json.list WrittenStep.decode)

theorem decodeScript_eq : decodeScript = stepList.decode "KeyScriptFile" :=
  rfl

theorem stepList_reads_iff {look : String → Option Tree} {written : List WrittenStep} :
    stepList.Reads look written ↔ ∃ items, look "steps" = some (.array items .closed) ∧
      List.Forall₂ (fun t w => WrittenStep.IsReadFrom w t) items written := by
  simp only [stepList, reads_map_iff, reads_field_iff, list_eq_ok_iff, WrittenStep.decode_eq_ok_iff]
  constructor
  · rintro ⟨_, ⟨_, hlook, items, rfl, hitems⟩, rfl⟩
    exact ⟨items, hlook, hitems⟩
  · rintro ⟨items, hlook, hitems⟩
    exact ⟨written, ⟨_, hlook, items, rfl, hitems⟩, rfl⟩

theorem decodeScript_eq_ok_iff {t : Tree} {written : List WrittenStep} :
    decodeScript t = .ok written ↔ HoldsSteps written t := by
  have hnames : (stepList.fields.map Json.Field.name).Nodup := by decide
  rw [decodeScript_eq, Record.decode_eq_ok_iff hnames]
  simp only [stepList_reads_iff]
  constructor
  · rintro (⟨members, rfl, honly, items, hfound, hitems⟩ | ⟨items, rfl, hlength, -, items', hfound, hitems⟩)
    · exact .object honly hfound hitems
    · match items with
      | [] => cases hfound
      | [a] =>
        cases hfound
        exact .array hitems
      | _ :: _ :: rest =>
        have hfew : rest.length + 1 + 1 ≤ 1 := hlength
        omega
  · intro h
    cases h with
    | object honly hfound hitems => exact .inl ⟨_, rfl, honly, _, hfound, hitems⟩
    | array hitems => exact .inr ⟨_, rfl, Nat.le_refl 1, nofun, _, rfl, hitems⟩

theorem run_script_iff {text : String} {written : List WrittenStep} :
    decodeScript.run text = .ok written ↔ IsScriptOf text written := by
  rw [run_eq_ok_iff, decodeScript_eq_ok_iff, IsScriptOf]
  constructor
  · rintro ⟨hroot, htrailing⟩
    exact ⟨_, by rw [← htrailing], hroot⟩
  · rintro ⟨root, hdocument, hroot⟩
    rw [hdocument]
    exact ⟨hroot, rfl⟩

theorem isScriptOf_scriptText (written : List WrittenStep) : IsScriptOf (scriptText written) written :=
  run_script_iff.mp (run_scriptText written)

/-- A text is read as a script when it holds at least one step and the keys of all its steps are known. -/
theorem ofText_eq_ok_iff {text : String} {script : Script} :
    Script.ofText text = .ok script ↔ ∃ written steps, IsScriptOf text written ∧ written ≠ [] ∧
      List.Forall₂ WrittenStep.Says written steps ∧ script = .ofSteps steps := by
  simp only [ofText_eq_ok_iff_run, run_script_iff, mapM_eq_ok_iff, WrittenStep.step_eq_ok_iff]

/-- Whether a text is a script does not depend on what its steps are but for their keys. -/
theorem exists_ofText_iff {text : String} :
    (∃ script, Script.ofText text = .ok script) ↔ ∃ written, IsScriptOf text written ∧ written ≠ [] ∧
      ∀ w ∈ written, ∃ k : Key, k.IsCalled w.key := by
  simp only [ofText_eq_ok_iff]
  constructor
  · rintro ⟨_, written, steps, hread, hsome, hsays, -⟩
    have hknown : List.Forall₂ (fun w s => (∃ k : Key, k.IsCalled w.key) ∧ WrittenStep.Says w s) written steps :=
      hsays.imp fun w s hs => ⟨⟨s.key, hs.key⟩, hs⟩
    exact ⟨written, hread, hsome, ((List.forall₂_and_left _ _).mp hknown).1⟩
  · rintro ⟨written, hread, hsome, hknown⟩
    have hkey : Nonempty Key := ⟨.w⟩
    choose! k hk using hknown
    refine ⟨_, written, written.map fun w => ⟨w.time.toNat, k w, w.pressed⟩, hread, hsome, ?_, rfl⟩
    rw [List.forall₂_map_right_iff, List.forall₂_same]
    intro w hw
    exact ⟨rfl, hk w hw, rfl⟩

end PaddleLink
