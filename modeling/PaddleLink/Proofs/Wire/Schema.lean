import PaddleLink.Proofs.Json.Fields
import PaddleLink.Wire.Schema

namespace PaddleLink

open Json

theorem natural_toTree {n bound : Nat} (expected : String) (h : n < bound) :
    natural bound expected (Value.integer n).toTree = .ok n := by
  simp only [Value.toTree, natural]
  rw [if_pos ⟨by omega, by omega⟩, Int.toNat_natCast]

theorem uint8_toTree (n : UInt8) : uint8 (Value.integer n.toNat).toTree = .ok n := by
  rw [uint8, natural_toTree _ n.toNat_lt]
  simp [Except.map]

theorem uint16_toTree (n : UInt16) : uint16 (Value.integer n.toNat).toTree = .ok n := by
  rw [uint16, natural_toTree _ n.toNat_lt]
  simp [Except.map]

theorem uint32_toTree (n : UInt32) : uint32 (Value.integer n.toNat).toTree = .ok n := by
  rw [uint32, natural_toTree _ n.toNat_lt]
  simp [Except.map]

theorem uint64_toTree (n : UInt64) : uint64 (Value.integer n.toNat).toTree = .ok n := by
  rw [uint64, natural_toTree _ n.toNat_lt]
  simp [Except.map]

theorem float_toTree {x : Float} (h : x.isFinite = true) : float (Value.ofFloat x).toTree = .ok x := by
  rw [Value.ofFloat, if_pos h]
  rfl

theorem text_toTree (s : String) : text (Value.string s).toTree = .ok s :=
  rfl

theorem ActorId.decode_toTree (a : ActorId) : ActorId.decode a.toJson.toTree = .ok a :=
  rfl

theorem SessionId.decode_toTree (s : SessionId) : SessionId.decode s.toJson.toTree = .ok s :=
  rfl

theorem Slot.decode_toTree (s : Slot) : Slot.decode s.toJson.toTree = .ok s := by
  unfold Slot.decode refine Slot.toJson
  rw [uint8_toTree]
  simp [bind, Except.bind, pure, Except.pure]

theorem Direction.decode_toTree (d : Direction) : Direction.decode (Value.string d.name).toTree = .ok d := by
  cases d <;> rfl

theorem SessionState.decode_toTree (s : SessionState) :
    SessionState.decode (Value.string s.name).toTree = .ok s := by
  cases s <;> rfl

theorem Actor.decode_toTree (a : Actor) : Actor.decode a.toJson.toTree = .ok a := by
  apply decode_object
  · simp
  · exact reads_map Actor.mk (reads_field rfl a.id.decode_toTree)

theorem Player.decode_toTree (p : Player) : Player.decode p.toJson.toTree = .ok p := by
  apply decode_object
  · simp
  · exact reads_seq (reads_map _ (reads_field rfl p.id.decode_toTree)) (reads_field rfl p.slot.decode_toTree)

theorem Input.decode_toTree (i : Input) : Input.decode i.toJson.toTree = .ok i := by
  apply decode_object
  · simp
  · exact reads_seq (reads_seq (reads_map _ (reads_field rfl i.direction.decode_toTree))
      (reads_field rfl (uint16_toTree i.object))) (reads_field rfl i.slot.decode_toTree)

def GameObject.floats (o : GameObject) : List Float :=
  [o.x, o.y, o.orientationX, o.orientationY, o.velX, o.velY]

/-- An object is read from its members, whatever else stands before them. -/
theorem GameObject.reads_members {look : String → Option Tree} {o : GameObject}
    (hfinite : ∀ x ∈ o.floats, x.isFinite = true)
    (hlook : ∀ name v, o.members.lookup name = some v → look name = some v.toTree) :
    GameObject.record.Reads look o := by
  simp only [GameObject.floats, List.forall_mem_cons, List.not_mem_nil, false_implies, implies_true,
    and_true] at hfinite
  obtain ⟨hx, hy, hox, hoy, hvx, hvy⟩ := hfinite
  have hid := reads_map GameObject.mk (reads_field (hlook "id" _ rfl) (uint16_toTree o.id))
  have hplace := reads_seq (reads_seq hid (reads_field (hlook "x" _ rfl) (float_toTree hx)))
    (reads_field (hlook "y" _ rfl) (float_toTree hy))
  have horientation := reads_seq (reads_seq hplace
    (reads_field (hlook "orientation_x" _ rfl) (float_toTree hox)))
    (reads_field (hlook "orientation_y" _ rfl) (float_toTree hoy))
  have hvelocity := reads_seq (reads_seq horientation (reads_field (hlook "vel_x" _ rfl) (float_toTree hvx)))
    (reads_field (hlook "vel_y" _ rfl) (float_toTree hvy))
  exact reads_seq (reads_seq hvelocity (reads_field (hlook "shape_param_1" _ rfl) (uint16_toTree o.shapeParam1)))
    (reads_field (hlook "shape_param_2" _ rfl) (uint16_toTree o.shapeParam2))

theorem GameObject.decode_toTree {o : GameObject} (h : ∀ x ∈ o.floats, x.isFinite = true) :
    GameObject.decode o.toJson.toTree = .ok o := by
  apply decode_object
  · simp [GameObject.members]
  · apply GameObject.reads_members h
    intro name v hv
    rw [member?_memberTrees, hv]
    rfl

theorem Score.decode_toTree (s : Score) : Score.decode s.toJson.toTree = .ok s := by
  apply decode_object
  · simp
  · exact reads_seq (reads_map _ (reads_field rfl (uint32_toTree s.player1)))
      (reads_field rfl (uint32_toTree s.player2))

theorem GameState.decode_toTree (s : GameState) : GameState.decode s.toJson.toTree = .ok s := by
  apply decode_object
  · simp
  · exact reads_map GameState.mk (reads_field rfl s.score.decode_toTree)

theorem SessionReport.decode_toTree (r : SessionReport) : SessionReport.decode r.toJson.toTree = .ok r := by
  apply decode_object
  · simp
  · have hplayers := list_toTree r.players fun p _ => p.decode_toTree
    exact reads_seq (reads_seq (reads_map _ (reads_field rfl r.id.decode_toTree))
      (reads_field rfl r.state.decode_toTree)) (reads_fieldOr rfl hplayers)

theorem SessionEvent.decode_toTree (e : SessionEvent) : SessionEvent.decode e.toJson.toTree = .ok e := by
  apply decode_object
  · simp
  · exact reads_seq (reads_seq (reads_seq (reads_map _ (reads_field rfl e.actor.decode_toTree))
      (reads_field rfl (text_toTree e.kind))) (reads_fieldOr rfl (text_toTree e.reason)))
      (reads_field rfl e.session.decode_toTree)

theorem InputEvent.decode_toTree (e : InputEvent) : InputEvent.decode e.toJson.toTree = .ok e := by
  obtain ⟨session, inputs, player, slot, time⟩ := e
  have hinputs := list_toTree inputs fun i _ => i.decode_toTree
  apply decode_object
  · cases slot <;> simp [memberIfSome]
  · cases slot with
    | none =>
      exact reads_seq (reads_seq (reads_seq (reads_seq (reads_map _ (reads_field rfl session.decode_toTree))
        (reads_fieldOr rfl hinputs)) (reads_field rfl player.decode_toTree)) (reads_fieldOr_absent rfl))
        (reads_field rfl (uint64_toTree time))
    | some slot =>
      have hslot := optional_some (by simp [Slot.toJson, Value.toTree]) slot.decode_toTree
      exact reads_seq (reads_seq (reads_seq (reads_seq (reads_map _ (reads_field rfl session.decode_toTree))
        (reads_fieldOr rfl hinputs)) (reads_field rfl player.decode_toTree)) (reads_fieldOr rfl hslot))
        (reads_field rfl (uint64_toTree time))

/-- The objects of a snapshot, if it has any. -/
theorem objects_toTree {os : List GameObject} (h : ∀ o ∈ os, ∀ x ∈ o.floats, x.isFinite = true) :
    optional (list GameObject.decode) (Value.array (os.map GameObject.toJson)).toTree = .ok (some os) :=
  optional_some (by simp [Value.toTree]) (list_toTree os fun o ho => GameObject.decode_toTree (h o ho))

theorem Snapshot.decode_toTree {s : Snapshot}
    (h : ∀ os, s.objects = some os → ∀ o ∈ os, ∀ x ∈ o.floats, x.isFinite = true) :
    Snapshot.decode s.toJson.toTree = .ok s := by
  obtain ⟨session, inputs, objects, player, time⟩ := s
  have hinputs := list_toTree inputs fun i _ => i.decode_toTree
  apply decode_object
  · cases objects <;> simp [memberIfSome]
  · cases objects with
    | none =>
      exact reads_seq (reads_seq (reads_seq (reads_seq (reads_map _ (reads_field rfl session.decode_toTree))
        (reads_fieldOr rfl hinputs)) (reads_fieldOr_absent rfl)) (reads_field rfl player.decode_toTree))
        (reads_field rfl (uint64_toTree time))
    | some os =>
      have hobjects := objects_toTree (h os rfl)
      exact reads_seq (reads_seq (reads_seq (reads_seq (reads_map _ (reads_field rfl session.decode_toTree))
        (reads_fieldOr rfl hinputs)) (reads_fieldOr rfl hobjects)) (reads_field rfl player.decode_toTree))
        (reads_field rfl (uint64_toTree time))

/-- Where keeping a member for later makes no difference, a move event is checked like any other record. -/
theorem checkMove_eq {levels : Nat} {members : List (Name × Tree)}
    (h : ∀ m ∈ members, m.2.keepFault levels = m.2.skipFault) (seen : List String) :
    checkMove levels seen members = checkMembers MoveEvent.record.fields seen members := by
  induction members generalizing seen with
  | nil => rfl
  | cons m members ih =>
    obtain ⟨name, t⟩ := m
    obtain ⟨ht, hrest⟩ := List.forall_mem_cons.mp h
    have hnext := ih hrest
    unfold checkMove checkMembers
    cases name with
    | error f => rfl
    | ok name =>
      simp only at ht
      cases hfind : MoveEvent.record.fields.find? (fun f => f.name == name) <;>
        simp only [lexeme, bind, Except.bind, hfind, hnext, ht]

def isPlain : Value → Bool
  | .array _ | .object _ => false
  | _ => true

theorem isPlain_ofFloat (x : Float) : isPlain (Value.ofFloat x) = true := by
  unfold Value.ofFloat
  split <;> rfl

/-- A value without parts is kept as it is passed over. -/
theorem keepFault_memberTrees {ms : List (String × Value)} (h : ∀ m ∈ ms, isPlain m.2 = true) (levels : Nat) :
    ∀ m ∈ memberTrees ms, m.2.keepFault levels = m.2.skipFault := by
  induction ms with
  | nil => exact fun m hm => (List.not_mem_nil hm).elim
  | cons m ms ih =>
    obtain ⟨name, v⟩ := m
    obtain ⟨hv, hrest⟩ := List.forall_mem_cons.mp h
    refine List.forall_mem_cons.mpr ⟨?_, ih hrest⟩
    cases v with
    | array | object => cases hv
    | _ => rfl

theorem MoveEvent.decode_toTree {e : MoveEvent} (h : ∀ x ∈ e.object.floats, x.isFinite = true) :
    MoveEvent.decode e.toJson.toTree = .ok e := by
  obtain ⟨session, time, object⟩ := e
  generalize hms : memberIfSome "session_id" SessionId.toJson session ++ [("ts", Value.integer time.toNat)] ++
    object.members = ms
  have hnames : (ms.map Prod.fst).Nodup := by
    rw [← hms]
    cases session <;> simp [memberIfSome, GameObject.members]
  have hplain : ∀ m ∈ ms, isPlain m.2 = true := by
    rw [← hms]
    have hinteger (i : Int) : isPlain (.integer i) = true := rfl
    have hobject : ∀ m ∈ object.members, isPlain m.2 = true := by
      simp [GameObject.members, isPlain_ofFloat, hinteger]
    intro m hm
    rcases List.mem_append.mp hm with hm | hm
    · cases session with
      | none =>
        cases List.mem_singleton.mp hm
        rfl
      | some session =>
        rcases List.mem_cons.mp hm with rfl | hm
        · rfl
        · cases List.mem_singleton.mp hm
          rfl
    · exact hobject m hm
  have hown : MoveEvent.record.Reads (member? (memberTrees ms)) (session, time) := by
    rw [← hms]
    cases session with
    | none => exact reads_seq (reads_map _ (reads_fieldOr_absent rfl)) (reads_fieldOr rfl (uint64_toTree time))
    | some session =>
      have hsession := optional_some (by simp [SessionId.toJson, Value.toTree]) session.decode_toTree
      exact reads_seq (reads_map _ (reads_fieldOr rfl hsession)) (reads_fieldOr rfl (uint64_toTree time))
  have hobject : GameObject.record.Reads (member? (memberTrees ms)) object := by
    apply GameObject.reads_members h
    intro name v hv
    have hlook : ms.lookup name = some v := by
      subst hms
      exact lookup_append_right hnames hv
    rw [member?_memberTrees, hlook]
    rfl
  have hmove : checkMove keptLevels [] (memberTrees ms) = .ok () := by
    rw [checkMove_eq (keepFault_memberTrees hplain keptLevels)]
    exact checkMembers_of_reads hnames hown
  have htree : (MoveEvent.toJson ⟨session, time, object⟩).toTree = .object (memberTrees ms) .closed := by
    rw [MoveEvent.toJson, hms, Value.toTree]
  rw [htree]
  simp only [MoveEvent.decode, hmove, hown.build, checkMembers_of_reads hnames hobject, hobject.build,
    Ending.readFault, noFault]
  rfl

theorem StatusEvent.decode_toTree (e : StatusEvent) : StatusEvent.decode e.toJson.toTree = .ok e := by
  apply decode_object
  · simp
  · exact reads_seq (reads_map _ (reads_field rfl e.session.decode_toTree))
      (reads_field rfl e.state.decode_toTree)

end PaddleLink
