import PaddleLink.Proofs.Json.Encoding
import PaddleLink.Proofs.Wire.Text

namespace PaddleLink

open Json

def Actor.fields (a : Actor) : List FieldForms :=
  [needed "id" (encoded a.id.toJson)]

def Player.fields (p : Player) : List FieldForms :=
  [needed "id" (encoded p.id.toJson), needed "slot" (encoded p.slot.toJson)]

def Input.fields (i : Input) : List FieldForms :=
  [needed "direction" (encoded (.string i.direction.name)), needed "object_id" (encoded (.integer i.object.toNat)),
    needed "slot" (encoded i.slot.toJson)]

def GameObject.fields (o : GameObject) : List FieldForms :=
  [needed "id" (encoded (.integer o.id.toNat)), needed "x" (encoded (.ofFloat o.x)),
    needed "y" (encoded (.ofFloat o.y)), needed "orientation_x" (encoded (.ofFloat o.orientationX)),
    needed "orientation_y" (encoded (.ofFloat o.orientationY)), needed "vel_x" (encoded (.ofFloat o.velX)),
    needed "vel_y" (encoded (.ofFloat o.velY)), needed "shape_param_1" (encoded (.integer o.shapeParam1.toNat)),
    needed "shape_param_2" (encoded (.integer o.shapeParam2.toNat))]

def Score.fields (s : Score) : List FieldForms :=
  [needed "player_1" (encoded (.integer s.player1.toNat)), needed "player_2" (encoded (.integer s.player2.toNat))]

def GameState.fields (s : GameState) : List FieldForms :=
  [needed "score" (recordForms s.score.fields)]

def SessionReport.fields (r : SessionReport) : List FieldForms :=
  [needed "session_id" (encoded r.id.toJson), needed "state" (encoded (.string r.state.name)),
    defaulting "players" (listForms (r.players.map fun p => recordForms p.fields)) r.players []]

def SessionEvent.fields (e : SessionEvent) : List FieldForms :=
  [needed "actor" (recordForms e.actor.fields), needed "event_type" (encoded (.string e.kind)),
    defaulting "reason" (encoded (.string e.reason)) e.reason "", needed "session" (recordForms e.session.fields)]

def inputForms (is : List Input) : Forms :=
  listForms (is.map fun i => recordForms i.fields)

def objectListForms (os : List GameObject) : Forms :=
  listForms (os.map fun o => recordForms o.fields)

def InputEvent.fields (e : InputEvent) : List FieldForms :=
  [needed "session_id" (encoded e.session.toJson), defaulting "inputs" (inputForms e.inputs) e.inputs [],
    needed "player_id" (encoded e.player.toJson),
    optionalForms "player_slot" (fun s => encoded (Slot.toJson s)) e.slot,
    needed "ts" (encoded (.integer e.time.toNat))]

def MoveEvent.fields (e : MoveEvent) : List FieldForms :=
  [optionalForms "session_id" (fun s => encoded (SessionId.toJson s)) e.session,
    defaulting "ts" (encoded (.integer e.time.toNat)) e.time 0]

def Snapshot.fields (s : Snapshot) : List FieldForms :=
  [needed "session_id" (encoded s.session.toJson), defaulting "inputs" (inputForms s.inputs) s.inputs [],
    optionalForms "objects" objectListForms s.objects, needed "player_id" (encoded s.player.toJson),
    needed "ts" (encoded (.integer s.time.toNat))]

def StatusEvent.fields (e : StatusEvent) : List FieldForms :=
  [needed "session_id" (encoded e.session.toJson), needed "state" (recordForms e.state.fields)]

def Event.forms : Event → Forms
  | .session e => recordForms e.fields
  | .input e => recordForms e.fields
  | .move e => objectForms (e.fields ++ e.object.fields)
  | .tick s => recordForms s.fields
  | .status e => recordForms e.fields

/-- A text of an event in one of its forms, with white space wherever it may stand. -/
def Event.WrittenAs (e : Event) (s : String) : Prop :=
  ∃ w, e.forms w ∧ Spaced w.parts s.toList

/-- Whether it has a value or not, an optional field keeps its name. -/
theorem name_optionalForms {α : Type} (name : String) (forms : α → Forms) (a : Option α) :
    (optionalForms name forms a).name = name := by
  cases a <;> rfl

theorem Actor.nodup_names (a : Actor) : (a.fields.map FieldForms.name).Nodup := by
  simp [fields, needed]

theorem Player.nodup_names (p : Player) : (p.fields.map FieldForms.name).Nodup := by
  simp [fields, needed]

theorem Input.nodup_names (i : Input) : (i.fields.map FieldForms.name).Nodup := by
  simp [fields, needed]

theorem GameObject.nodup_names (o : GameObject) : (o.fields.map FieldForms.name).Nodup := by
  simp [fields, needed]

theorem Score.nodup_names (s : Score) : (s.fields.map FieldForms.name).Nodup := by
  simp [fields, needed]

theorem GameState.nodup_names (s : GameState) : (s.fields.map FieldForms.name).Nodup := by
  simp [fields, needed]

theorem SessionReport.nodup_names (r : SessionReport) : (r.fields.map FieldForms.name).Nodup := by
  simp [fields, needed, defaulting]

theorem SessionEvent.nodup_names (e : SessionEvent) : (e.fields.map FieldForms.name).Nodup := by
  simp [fields, needed, defaulting]

theorem InputEvent.nodup_names (e : InputEvent) : (e.fields.map FieldForms.name).Nodup := by
  simp [fields, needed, defaulting, name_optionalForms]

theorem MoveEvent.nodup_names (e : MoveEvent) : ((e.fields ++ e.object.fields).map FieldForms.name).Nodup := by
  simp [fields, GameObject.fields, needed, defaulting, name_optionalForms]

theorem Snapshot.nodup_names (s : Snapshot) : (s.fields.map FieldForms.name).Nodup := by
  simp [fields, needed, defaulting, name_optionalForms]

theorem StatusEvent.nodup_names (e : StatusEvent) : (e.fields.map FieldForms.name).Nodup := by
  simp [fields, needed]

theorem lists_optional {α : Type} (name : String) {forms : α → Forms} {f : α → Value} {a : Option α}
    {fields : List FieldForms} {vs : List (String × Value)} (h : ∀ b, a = some b → Holds (forms b) (f b))
    (rest : Lists fields vs) : Lists (optionalForms name forms a :: fields) (memberIfSome name f a ++ vs) := by
  cases a with
  | none => exact .leave trivial rest
  | some b => exact .keep (f := ⟨name, forms b, False⟩) (h b rfl) rest

theorem Actor.holds (a : Actor) : Holds (recordForms a.fields) a.toJson :=
  holds_record (.keepEncoded "id" (legible_string _) .nil) a.nodup_names

theorem Player.holds (p : Player) : Holds (recordForms p.fields) p.toJson :=
  holds_record (.keepEncoded "id" (legible_string _) (.keepEncoded "slot" (legible_uint8 _) .nil)) p.nodup_names

theorem Input.holds (i : Input) : Holds (recordForms i.fields) i.toJson :=
  holds_record (.keepEncoded "direction" (legible_string _) (.keepEncoded "object_id" (legible_uint16 _)
    (.keepEncoded "slot" (legible_uint8 _) .nil))) i.nodup_names

theorem GameObject.lists {o : GameObject} (h : ∀ x ∈ o.floats, ReadsBack x) : Lists o.fields o.members := by
  have hfloats : ∀ x ∈ o.floats, (Value.ofFloat x).Legible := fun x hx => legible_ofFloat (h x hx)
  simp only [floats, List.forall_mem_cons, List.not_mem_nil, false_implies, implies_true, and_true] at hfloats
  obtain ⟨hx, hy, hox, hoy, hvx, hvy⟩ := hfloats
  have hshape : Lists _ _ := .keepEncoded "shape_param_1" (legible_uint16 o.shapeParam1)
    (.keepEncoded "shape_param_2" (legible_uint16 o.shapeParam2) .nil)
  have hvelocity := Lists.keepEncoded "vel_x" hvx (.keepEncoded "vel_y" hvy hshape)
  have horientation := Lists.keepEncoded "orientation_x" hox (.keepEncoded "orientation_y" hoy hvelocity)
  exact .keepEncoded "id" (legible_uint16 o.id) (.keepEncoded "x" hx (.keepEncoded "y" hy horientation))

theorem GameObject.holds {o : GameObject} (h : ∀ x ∈ o.floats, ReadsBack x) :
    Holds (recordForms o.fields) o.toJson :=
  holds_record (GameObject.lists h) o.nodup_names

theorem Score.holds (s : Score) : Holds (recordForms s.fields) s.toJson :=
  holds_record (.keepEncoded "player_1" (legible_uint32 _) (.keepEncoded "player_2" (legible_uint32 _) .nil))
    s.nodup_names

theorem GameState.holds (s : GameState) : Holds (recordForms s.fields) s.toJson :=
  holds_record (.keep s.score.holds .nil) s.nodup_names

theorem SessionReport.holds (r : SessionReport) : Holds (recordForms r.fields) r.toJson := by
  have hplayers := holds_map r.players fun p _ => p.holds
  exact holds_record (.keepEncoded "session_id" (legible_string _) (.keepEncoded "state" (legible_string _)
    (.keep hplayers .nil))) r.nodup_names

theorem SessionEvent.holds (e : SessionEvent) : Holds (recordForms e.fields) e.toJson := by
  have hreason := holds_of_legible (legible_string e.reason)
  exact holds_record (.keep e.actor.holds (.keepEncoded "event_type" (legible_string _) (.keep hreason
    (.keep e.session.holds .nil)))) e.nodup_names

theorem holds_inputs (is : List Input) : Holds (inputForms is) (.array (is.map Input.toJson)) :=
  holds_map is fun i _ => i.holds

theorem InputEvent.holds (e : InputEvent) : Holds (recordForms e.fields) e.toJson := by
  have htime := Lists.keepEncoded "ts" (legible_uint64 e.time) .nil
  have hslot := lists_optional "player_slot" (a := e.slot)
    (fun s _ => holds_of_legible (legible_uint8 s.number)) htime
  exact holds_record (.keepEncoded "session_id" (legible_string _) (.keep (holds_inputs e.inputs)
    (.keepEncoded "player_id" (legible_string _) hslot))) e.nodup_names

theorem MoveEvent.holds {e : MoveEvent} (h : ∀ x ∈ e.object.floats, ReadsBack x) :
    Holds (objectForms (e.fields ++ e.object.fields)) e.toJson := by
  have htime := Lists.keep (f := defaulting "ts" _ e.time 0) (holds_of_legible (legible_uint64 e.time))
    (GameObject.lists h)
  have hsession := lists_optional "session_id" (a := e.session)
    (fun s _ => holds_of_legible (legible_string s.text)) htime
  have hmembers : e.toJson = .object (memberIfSome "session_id" SessionId.toJson e.session ++
      ("ts", .integer e.time.toNat) :: e.object.members) := by
    simp [MoveEvent.toJson]
  rw [hmembers]
  exact holds_object hsession e.nodup_names

theorem Snapshot.holds {s : Snapshot} (h : ∀ os, s.objects = some os → ∀ o ∈ os, ∀ x ∈ o.floats, ReadsBack x) :
    Holds (recordForms s.fields) s.toJson := by
  have hplayer := Lists.keepEncoded "player_id" (legible_string s.player.text)
    (.keepEncoded "ts" (legible_uint64 s.time) .nil)
  have hobjects := lists_optional "objects" (a := s.objects)
    (fun os hos => holds_map os fun o ho => GameObject.holds (h os hos o ho)) hplayer
  exact holds_record (.keepEncoded "session_id" (legible_string _) (.keep (holds_inputs s.inputs) hobjects))
    s.nodup_names

theorem StatusEvent.holds (e : StatusEvent) : Holds (recordForms e.fields) e.toJson :=
  holds_record (.keepEncoded "session_id" (legible_string _) (.keep e.state.holds .nil)) e.nodup_names

theorem Event.holds {e : Event} (h : ∀ x ∈ e.floats, ReadsBack x) : Holds e.forms e.toJson := by
  rw [Event.forall_floats] at h
  cases e with
  | session e => exact e.holds
  | input e => exact e.holds
  | move e => exact MoveEvent.holds (h e.object (List.mem_singleton_self _))
  | tick s =>
    refine Snapshot.holds fun os hos o ho => h o ?_
    simpa [Event.objects, hos] using ho
  | status e => exact e.holds

/-- The encoding of an event is one of its texts. -/
theorem Event.writtenAs_toText {e : Event} (h : ∀ x ∈ e.floats, ReadsBack x) : e.WrittenAs e.toJson.toText := by
  obtain ⟨w, hforms, htext⟩ := Event.holds h
  refine ⟨w, hforms, ?_⟩
  rw [Value.toText, String.toList_ofList, ← htext]
  exact spaced_text w

end PaddleLink
