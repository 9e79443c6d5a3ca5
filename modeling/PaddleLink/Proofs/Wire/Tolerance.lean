import PaddleLink.Proofs.Wire.Forms
import PaddleLink.Proofs.Wire.RoundTrip

/-!
Events are read in every form in which a server may write them. Only the values of the fields count: not their order,
not what stands beside them or between them, not whether a value that goes without saying is spelled out, and not
whether a record is an object or an array.
-/

namespace PaddleLink

open Json

theorem Actor.decode_forms (a : Actor) : ∀ w, recordForms a.fields w → Actor.decode w.tree = .ok a := by
  have hid := decode_encoded (legible_string a.id.text) a.id.decode_toTree
  exact decode_recordForms "Actor" (accepts_map Actor.mk (accepts_field hid)) a.nodup_names

theorem Player.decode_forms (p : Player) : ∀ w, recordForms p.fields w → Player.decode w.tree = .ok p := by
  have hid := decode_encoded (legible_string p.id.text) p.id.decode_toTree
  have hslot := decode_encoded (legible_uint8 p.slot.number) p.slot.decode_toTree
  exact decode_recordForms "Player" (accepts_seq (accepts_map Player.mk (accepts_field hid)) (accepts_field hslot))
    p.nodup_names

theorem Input.decode_forms (i : Input) : ∀ w, recordForms i.fields w → Input.decode w.tree = .ok i := by
  have hdirection := decode_encoded (legible_string i.direction.name) i.direction.decode_toTree
  have hobject := decode_encoded (legible_uint16 i.object) (uint16_toTree i.object)
  have hslot := decode_encoded (legible_uint8 i.slot.number) i.slot.decode_toTree
  exact decode_recordForms "Input" (accepts_seq (accepts_seq (accepts_map Input.mk (accepts_field hdirection))
    (accepts_field hobject)) (accepts_field hslot)) i.nodup_names

def Faithful (x : Float) : Prop :=
  x.isFinite = true ∧ ReadsBack x

theorem accepts_float (name : String) {x : Float} (h : Faithful x) :
    (field name float).Accepts [needed name (encoded (.ofFloat x))] x :=
  accepts_field (decode_encoded (legible_ofFloat h.2) (float_toTree h.1))

theorem accepts_uint16 (name : String) (n : UInt16) :
    (field name uint16).Accepts [needed name (encoded (.integer n.toNat))] n :=
  accepts_field (decode_encoded (legible_uint16 n) (uint16_toTree n))

theorem GameObject.accepts {o : GameObject} (h : ∀ x ∈ o.floats, Faithful x) :
    GameObject.record.Accepts o.fields o := by
  simp only [floats, List.forall_mem_cons, List.not_mem_nil, false_implies, implies_true, and_true] at h
  obtain ⟨hx, hy, hox, hoy, hvx, hvy⟩ := h
  have hid := accepts_map GameObject.mk (accepts_uint16 "id" o.id)
  have hplace := accepts_seq (accepts_seq hid (accepts_float "x" hx)) (accepts_float "y" hy)
  have horientation := accepts_seq (accepts_seq hplace (accepts_float "orientation_x" hox))
    (accepts_float "orientation_y" hoy)
  have hvelocity := accepts_seq (accepts_seq horientation (accepts_float "vel_x" hvx)) (accepts_float "vel_y" hvy)
  exact accepts_seq (accepts_seq hvelocity (accepts_uint16 "shape_param_1" o.shapeParam1))
    (accepts_uint16 "shape_param_2" o.shapeParam2)

theorem GameObject.decode_forms {o : GameObject} (h : ∀ x ∈ o.floats, Faithful x) :
    ∀ w, recordForms o.fields w → GameObject.decode w.tree = .ok o :=
  decode_recordForms "GameObject" (GameObject.accepts h) o.nodup_names

theorem Score.decode_forms (s : Score) : ∀ w, recordForms s.fields w → Score.decode w.tree = .ok s := by
  have hfirst := decode_encoded (legible_uint32 s.player1) (uint32_toTree s.player1)
  have hsecond := decode_encoded (legible_uint32 s.player2) (uint32_toTree s.player2)
  exact decode_recordForms "Score" (accepts_seq (accepts_map Score.mk (accepts_field hfirst))
    (accepts_field hsecond)) s.nodup_names

theorem GameState.decode_forms (s : GameState) : ∀ w, recordForms s.fields w → GameState.decode w.tree = .ok s :=
  decode_recordForms "GameState" (accepts_map GameState.mk (accepts_field s.score.decode_forms))
    s.nodup_names

theorem accepts_text {name : String} (s : String) :
    (field name text).Accepts [needed name (encoded (.string s))] s :=
  accepts_field (decode_encoded (legible_string s) (text_toTree s))

theorem accepts_session {name : String} (s : SessionId) :
    (field name SessionId.decode).Accepts [needed name (encoded s.toJson)] s :=
  accepts_field (decode_encoded (legible_string s.text) s.decode_toTree)

theorem accepts_actor {name : String} (a : ActorId) :
    (field name ActorId.decode).Accepts [needed name (encoded a.toJson)] a :=
  accepts_field (decode_encoded (legible_string a.text) a.decode_toTree)

theorem accepts_time {name : String} (n : UInt64) :
    (field name uint64).Accepts [needed name (encoded (.integer n.toNat))] n :=
  accepts_field (decode_encoded (legible_uint64 n) (uint64_toTree n))

theorem accepts_inputs {name : String} (is : List Input) :
    (fieldOr name [] (list Input.decode)).Accepts [defaulting name (inputForms is) is []] is :=
  accepts_fieldOr (fun h => h) (decode_listForms is fun i _ => i.decode_forms)

theorem SessionReport.decode_forms (r : SessionReport) :
    ∀ w, recordForms r.fields w → SessionReport.decode w.tree = .ok r := by
  have hstate := decode_encoded (legible_string r.state.name) r.state.decode_toTree
  have hplayers := decode_listForms r.players fun p _ => p.decode_forms
  exact decode_recordForms "SessionPayload" (accepts_seq (accepts_seq (accepts_map SessionReport.mk
    (accepts_session r.id)) (accepts_field hstate)) (accepts_fieldOr (fun h => h) hplayers))
    r.nodup_names

theorem SessionEvent.decode_forms (e : SessionEvent) :
    ∀ w, recordForms e.fields w → SessionEvent.decode w.tree = .ok e := by
  have hreason := decode_encoded (legible_string e.reason) (text_toTree e.reason)
  exact decode_recordForms "SessionEvent" (accepts_seq (accepts_seq (accepts_seq (accepts_map SessionEvent.mk
    (accepts_field e.actor.decode_forms)) (accepts_text e.kind)) (accepts_fieldOr (fun h => h) hreason))
    (accepts_field e.session.decode_forms)) e.nodup_names

theorem InputEvent.decode_forms (e : InputEvent) : ∀ w, recordForms e.fields w → InputEvent.decode w.tree = .ok e := by
  have hslot := accepts_optional "player_slot" (a := e.slot) (d := Slot.decode) nofun fun s _ =>
    decode_encoded (legible_uint8 s.number) s.decode_toTree
  exact decode_recordForms "InputEvent" (accepts_seq (accepts_seq (accepts_seq (accepts_seq
    (accepts_map InputEvent.mk (accepts_session e.session)) (accepts_inputs e.inputs)) (accepts_actor e.player))
    hslot) (accepts_time e.time)) e.nodup_names

theorem Snapshot.decode_forms {s : Snapshot}
    (h : ∀ os, s.objects = some os → ∀ o ∈ os, ∀ x ∈ o.floats, Faithful x) :
    ∀ w, recordForms s.fields w → Snapshot.decode w.tree = .ok s := by
  have hobjects := accepts_optional "objects" (a := s.objects) (d := list GameObject.decode) nofun
    fun os hos => decode_listForms os fun o ho => GameObject.decode_forms (h os hos o ho)
  exact decode_recordForms "SessionSnapshot" (accepts_seq (accepts_seq (accepts_seq (accepts_seq
    (accepts_map Snapshot.mk (accepts_session s.session)) (accepts_inputs s.inputs)) hobjects)
    (accepts_actor s.player)) (accepts_time s.time)) s.nodup_names

theorem StatusEvent.decode_forms (e : StatusEvent) :
    ∀ w, recordForms e.fields w → StatusEvent.decode w.tree = .ok e :=
  decode_recordForms "StatusEvent" (accepts_seq (accepts_map StatusEvent.mk (accepts_session e.session))
    (accepts_field e.state.decode_forms)) e.nodup_names

theorem MoveEvent.accepts (e : MoveEvent) : MoveEvent.record.Accepts e.fields (e.session, e.time) := by
  have hsession := accepts_optional "session_id" (a := e.session) (d := SessionId.decode) nofun fun s _ =>
    decode_encoded (legible_string s.text) s.decode_toTree
  have htime := decode_encoded (legible_uint64 e.time) (uint64_toTree e.time)
  exact accepts_seq (accepts_map Prod.mk hsession) (accepts_fieldOr (fun h => h) htime)

/-- A value without parts can be kept for later as it is encoded. -/
theorem keepFault_encoded {v : Value} (hv : v.Legible) (hplain : isPlain v = true) (levels : Nat) :
    ∀ w, encoded v w → w.tree.keepFault levels = none := by
  intro w hw
  rw [tree_of_text hv hw]
  cases v with
  | array | object => cases hplain
  | _ => rfl

/-- All members of a move event can be kept for its object. -/
theorem MoveEvent.keepFault_forms {e : MoveEvent} (h : ∀ x ∈ e.object.floats, Faithful x) (levels : Nat) :
    ∀ f ∈ e.fields ++ e.object.fields, ∀ w, f.forms w → w.tree.keepFault levels = none := by
  have hinteger {n : Nat} (hn : n < 2 ^ 64) := keepFault_encoded (legible_natCast hn) rfl levels
  have hfloat {x : Float} (hx : Faithful x) :=
    keepFault_encoded (legible_ofFloat hx.2) (isPlain_ofFloat x) levels
  have hsession : ∀ w, (optionalForms "session_id" (fun s => encoded (SessionId.toJson s)) e.session).forms w →
      w.tree.keepFault levels = none := by
    cases e.session with
    | none => exact keepFault_encoded (v := .null) trivial rfl levels
    | some s => exact keepFault_encoded (legible_string s.text) rfl levels
  have hsmall (n : UInt16) : n.toNat < 2 ^ 64 := Nat.lt_trans n.toNat_lt (by decide)
  simp only [GameObject.floats, List.forall_mem_cons, List.not_mem_nil, false_implies, implies_true, and_true] at h
  obtain ⟨hx, hy, hox, hoy, hvx, hvy⟩ := h
  simp only [fields, GameObject.fields, List.cons_append, List.nil_append, List.forall_mem_cons, List.not_mem_nil,
    false_implies, implies_true, and_true]
  exact ⟨hsession, hinteger e.time.toNat_lt, hinteger (hsmall _), hfloat hx, hfloat hy, hfloat hox, hfloat hoy,
    hfloat hvx, hfloat hvy, hinteger (hsmall _), hinteger (hsmall _)⟩

theorem MoveEvent.keepFault_eq {e : MoveEvent} (h : ∀ x ∈ e.object.floats, Faithful x)
    {ms : List (StringText × Writing)} (hms : ObjectOf (e.fields ++ e.object.fields) ms) :
    ∀ m ∈ treesOfMembers ms, m.2.keepFault keptLevels = m.2.skipFault := by
  intro m hm
  rw [treesOfMembers_eq_map] at hm
  obtain ⟨m, hmem, rfl⟩ := List.mem_map.mp hm
  rw [skipFault_tree]
  by_cases hfield : ∀ f ∈ e.fields ++ e.object.fields, m.1.value ≠ f.name
  · have hextra := hms.extra m hmem hfield
    exact keepFault_tree m.2 hextra.inRange (Nat.le_trans (Nat.le_of_lt hextra.depth_lt) (by decide))
  · simp only [not_forall, not_not] at hfield
    obtain ⟨f, hf, hname⟩ := hfield
    exact MoveEvent.keepFault_forms h keptLevels f hf m.2 (hms.forms m hmem f hf hname)

theorem MoveEvent.decode_forms {e : MoveEvent} (h : ∀ x ∈ e.object.floats, Faithful x) :
    ∀ w, objectForms (e.fields ++ e.object.fields) w → MoveEvent.decode w.tree = .ok e := by
  rintro _ ⟨ms, rfl, hms⟩
  -- the same members are read twice: as the event's own fields and as those of its object
  have hown : e.fields ⊆ e.fields ++ e.object.fields := List.subset_append_left _ _
  have hobject : e.object.fields ⊆ e.fields ++ e.object.fields := List.subset_append_right _ _
  have hmove : checkMove keptLevels [] (treesOfMembers ms) = .ok () := by
    rw [checkMove_eq (MoveEvent.keepFault_eq h hms)]
    exact hms.checkMembers_eq e.accepts hown
  simp only [Writing.tree, MoveEvent.decode, hmove, (hms.reads e.accepts hown).build,
    hms.checkMembers_eq (GameObject.accepts h) hobject, (hms.reads (GameObject.accepts h) hobject).build,
    Ending.readFault, noFault]
  rfl

theorem Event.decode_forms {e : Event} (h : ∀ x ∈ e.floats, Faithful x) :
    ∀ w, e.forms w → Event.decode e.topic w.tree = .ok e := by
  intro w hw
  rw [Event.forall_floats] at h
  cases e with
  | session e =>
    show (SessionEvent.decode w.tree).map Event.session = _
    rw [e.decode_forms w hw]
    rfl
  | input e =>
    show (InputEvent.decode w.tree).map Event.input = _
    rw [e.decode_forms w hw]
    rfl
  | move e =>
    show (MoveEvent.decode w.tree).map Event.move = _
    rw [MoveEvent.decode_forms (h e.object (List.mem_singleton_self _)) w hw]
    rfl
  | tick s =>
    have hobjects : ∀ os, s.objects = some os → ∀ o ∈ os, ∀ x ∈ o.floats, Faithful x := by
      intro os hos o ho
      refine h o ?_
      simpa [Event.objects, hos] using ho
    show (Snapshot.decode w.tree).map Event.tick = _
    rw [Snapshot.decode_forms hobjects w hw]
    rfl
  | status e =>
    show (StatusEvent.decode w.tree).map Event.status = _
    rw [e.decode_forms w hw]
    rfl

/-- An event that can be used is read from each of its texts, and its encoding is one of them. The fields of a record
stand in any order, among others that are not known; those that hold their default may be left out, and those without
a value may be null; a record may be an array of its fields, and white space may be anywhere. -/
theorem Event.unseal_in_any_form (e : Event) (hvalid : e.violation? = none) (hfloats : ∀ x ∈ e.floats, Faithful x) :
    e.WrittenAs e.toJson.toText ∧
      ∀ s, e.WrittenAs s → Envelope.unseal ⟨e.topic.name, s⟩ = .ok (some e) := by
  refine ⟨Event.writtenAs_toText fun x hx => (hfloats x hx).2, ?_⟩
  rintro s ⟨w, hw, hspaced⟩
  have hdocument : Document.ofString s = ⟨w.tree, false⟩ := ofChars_spaced hspaced
  have hrun : (Event.decode e.topic).run s = .ok e := by
    rw [run_eq_ok_iff, hdocument]
    exact ⟨Event.decode_forms hfloats w hw, rfl⟩
  simp only [Envelope.unseal, Topic.ofName?_name, hrun, hvalid]

/-- A snapshot with its fields in another order and the object as an array. A field is added, the inputs are left out,
and everything is set apart. -/
theorem Event.unseal_tick_in_another_form :
    let e := Event.tick ⟨⟨"s"⟩, [], some [⟨3, 1.5, 1.5, 1.5, 1.5, 1.5, 1.5, 4, 5⟩], ⟨"p"⟩, 7⟩
    let s := " \x7b \"ts\" : 7 , \"new\" : [ null ] , \"player_id\" : \"p\" , \"objects\" : " ++
      "[ [ 3 , 1.5 , 1.5 , 1.5 , 1.5 , 1.5 , 1.5 , 4 , 5 ] ] , \"session_id\" : \"s\" \x7d"
    e.violation? = none ∧ (∀ x ∈ e.floats, Faithful x) ∧ e.WrittenAs s ∧
      Envelope.unseal ⟨"tick", s⟩ = .ok (some e) := by
  intro e s
  have hfloats : ∀ x ∈ e.floats, Faithful x := by
    intro x hx
    have hvalue : x = 1.5 := by simpa [e, Event.floats, Event.objects, GameObject.floats] using hx
    subst hvalue
    exact ⟨by decide +kernel, readsBack_1_5⟩
  choose spell htext hvalue using exists_stringText
  obtain ⟨three, hthree⟩ := exists_numberText_eq (show scanNumber ['3'] = .ok (_, []) from rfl)
  obtain ⟨four, hfour⟩ := exists_numberText_eq (show scanNumber ['4'] = .ok (_, []) from rfl)
  obtain ⟨five, hfive⟩ := exists_numberText_eq (show scanNumber ['5'] = .ok (_, []) from rfl)
  obtain ⟨seven, hseven⟩ := exists_numberText_eq (show scanNumber ['7'] = .ok (_, []) from rfl)
  obtain ⟨half, hhalf⟩ := exists_numberText_eq (show scanNumber ['1', '.', '5'] = .ok (_, []) from rfl)
  let object : Writing := .array [.number three, .number half, .number half, .number half, .number half, .number half,
    .number half, .number four, .number five]
  let members : List (StringText × Writing) := [(spell "ts", .number seven), (spell "new", .array [.null]),
    (spell "player_id", .string (spell "p")), (spell "objects", .array [object]),
    (spell "session_id", .string (spell "s"))]
  have hinteger : ∀ d < 10, Decimal.digits d = [Decimal.digit d] := fun d hd => by rw [Decimal.digits, if_pos hd]
  have hfloat : (Value.ofFloat 1.5).render = ['1', '.', '5'] := by decide +kernel
  have hobject : recordForms (GameObject.fields ⟨3, 1.5, 1.5, 1.5, 1.5, 1.5, 1.5, 4, 5⟩) object := by
    have hhalf' : encoded (.ofFloat 1.5) (.number half) := encoded_number (hhalf.trans hfloat.symm)
    refine .inr ⟨_, rfl, .cons (encoded_number (hthree.trans (hinteger 3 (by decide)).symm)) ?_⟩
    refine .cons hhalf' (.cons hhalf' (.cons hhalf' (.cons hhalf' (.cons hhalf' (.cons hhalf' ?_)))))
    exact .cons (encoded_number (hfour.trans (hinteger 4 (by decide)).symm))
      (.cons (encoded_number (hfive.trans (hinteger 5 (by decide)).symm)) .nil)
  have htime : encoded (.integer 7) (.number seven) := encoded_number (hseven.trans (hinteger 7 (by decide)).symm)
  have hobjects : objectListForms [⟨3, 1.5, 1.5, 1.5, 1.5, 1.5, 1.5, 4, 5⟩] (.array [object]) :=
    ⟨_, rfl, .cons hobject .nil⟩
  have hnew : Extra (.array [.null]) := ⟨by decide, fun n hn => by simp [Writing.parts, itemParts, moreItemParts] at hn⟩
  have hmembers : e.forms (.object members) := by
    refine .inl ⟨members, rfl, ?_, ?_, ?_, ?_⟩
    · simpa [members, Snapshot.fields, needed, defaulting, optionalForms, hvalue] using
        ⟨htime, encoded_string (htext "p"), hobjects, encoded_string (htext "s")⟩
    · simpa [members, Snapshot.fields, needed, defaulting, optionalForms, hvalue] using hnew
    · simp [members, Snapshot.fields, needed, defaulting, optionalForms, hvalue]
    · simp [members, Snapshot.fields, needed, defaulting, optionalForms, hvalue]
  have hparts : s.toList = (Writing.object members).parts.flatMap fun p => [' '] ++ p.text := by
    simp only [members, object, Writing.parts, memberParts, moreMemberParts, itemParts, moreItemParts, Part.text,
      htext, hthree, hfour, hfive, hseven, hhalf, List.flatMap_cons, List.flatMap_nil, List.cons_append,
      List.nil_append]
    decide +kernel
  have hwritten : e.WrittenAs s := by
    refine ⟨_, hmembers, ?_⟩
    rw [hparts]
    exact spaced_flatMap (List.forall_mem_singleton.mpr rfl) _
  exact ⟨rfl, hfloats, hwritten, (Event.unseal_in_any_form e rfl hfloats).2 s hwritten⟩

end PaddleLink
