import PaddleLink.Proofs.Json.Numbers
import PaddleLink.Proofs.Wire.Text

namespace PaddleLink

open Json

variable {α β : Type}

/-- What is read from a tree has the property `Q` if the numbers of the tree are in their range. -/
def Json.Yields (d : Decoder α) (Q : α → Prop) : Prop :=
  ∀ t a, t.All Number.InRange → d t = .ok a → Q a

theorem yields_float : Yields float fun x => x.isFinite = true := by
  intro t x ht h
  unfold float at h
  split at h
  · cases h
    exact ht
  · cases h
    exact Decimal.isFinite_ofInt ht.1 ht.2
  · cases h

theorem forall_of_mapM {d : Decoder α} {Q : α → Prop} (hd : Yields d Q) {items : List Tree} {as : List α}
    (hitems : ∀ t ∈ items, t.All Number.InRange) (h : items.mapM d = .ok as) : ∀ a ∈ as, Q a := by
  induction items generalizing as with
  | nil =>
    cases h
    exact fun a ha => (List.not_mem_nil ha).elim
  | cons t items ih =>
    obtain ⟨ht, hrest⟩ := List.forall_mem_cons.mp hitems
    rw [List.mapM_cons] at h
    obtain ⟨a, ha, h⟩ := bind_ok h
    obtain ⟨as, has, h⟩ := bind_ok h
    cases h
    exact List.forall_mem_cons.mpr ⟨hd t a ht ha, ih hrest has⟩

theorem yields_list {d : Decoder α} {Q : α → Prop} (hd : Yields d Q) :
    Yields (list d) fun as => ∀ a ∈ as, Q a := by
  intro t as ht h
  cases t with
  | array items ending =>
    obtain ⟨as, has, h⟩ := bind_ok h
    obtain ⟨-, -, h⟩ := bind_ok h
    cases h
    exact forall_of_mapM hd (all_array.mp ht) has
  | _ => cases h

theorem yields_optional {d : Decoder α} {Q : α → Prop} (hd : Yields d Q) :
    Yields (Json.optional d) fun a => ∀ b, a = some b → Q b := by
  intro t a ht h b hb
  subst hb
  unfold Json.optional at h
  split at h
  · cases h
  · obtain ⟨a, ha, hsome⟩ := map_ok h
    rw [Option.some.inj hsome] at ha
    exact hd t b ht ha

def LooksInRange (look : String → Option Tree) : Prop :=
  ∀ name t, look name = some t → t.All Number.InRange

theorem looksInRange_member? {members : List (Name × Tree)} (h : ∀ m ∈ members, m.2.All Number.InRange) :
    LooksInRange (member? members) := by
  intro name t ht
  obtain ⟨m, hm, rfl⟩ := Option.map_eq_some_iff.mp ht
  exact h m (List.mem_of_find?_eq_some hm)

theorem looksInRange_item? (fields : List Json.Field) {items : List Tree}
    (h : ∀ t ∈ items, t.All Number.InRange) : LooksInRange (item? fields items) := by
  intro name t ht
  obtain ⟨p, hp, rfl⟩ := Option.map_eq_some_iff.mp ht
  have hmem : (p.1, p.2) ∈ fields.zip items := List.mem_of_find?_eq_some hp
  exact h p.2 (List.of_mem_zip hmem).2

/-- A record is built from fields whose numbers are in their range. -/
theorem yields_decode (name : String) {r : Record α} {Q : α → Prop}
    (hr : ∀ look a, LooksInRange look → r.build look = .ok a → Q a) : Yields (r.decode name) Q := by
  intro t a ht h
  cases t with
  | object members ending =>
    obtain ⟨-, -, h⟩ := bind_ok h
    obtain ⟨-, -, h⟩ := bind_ok h
    exact hr _ a (looksInRange_member? (all_object.mp ht)) h
  | array items ending =>
    obtain ⟨-, -, h⟩ := bind_ok h
    exact hr _ a (looksInRange_item? r.fields (all_array.mp ht)) h
  | _ => cases h

theorem isFinite_of_field {look : String → Option Tree} {name : String} {x : Float} (hlook : LooksInRange look)
    (h : (field name float).build look = .ok x) : x.isFinite = true := by
  obtain ⟨t, ht, hx⟩ := build_field h
  exact yields_float t x (hlook name t ht) hx

theorem GameObject.isFinite_of_build {look : String → Option Tree} {o : GameObject} (hlook : LooksInRange look)
    (h : GameObject.record.build look = .ok o) : ∀ x ∈ o.floats, x.isFinite = true := by
  obtain ⟨_, _, h₁, -, rfl⟩ := Record.build_seq h
  obtain ⟨_, _, h₂, -, rfl⟩ := Record.build_seq h₁
  obtain ⟨_, velY, h₃, hvy, rfl⟩ := Record.build_seq h₂
  obtain ⟨_, velX, h₄, hvx, rfl⟩ := Record.build_seq h₃
  obtain ⟨_, orientationY, h₅, hoy, rfl⟩ := Record.build_seq h₄
  obtain ⟨_, orientationX, h₆, hox, rfl⟩ := Record.build_seq h₅
  obtain ⟨_, y, h₇, hy, rfl⟩ := Record.build_seq h₆
  obtain ⟨_, x, h₈, hx, rfl⟩ := Record.build_seq h₇
  obtain ⟨id, -, rfl⟩ := Record.build_map h₈
  have hplace : x.isFinite = true ∧ y.isFinite = true := ⟨isFinite_of_field hlook hx, isFinite_of_field hlook hy⟩
  have horientation : orientationX.isFinite = true ∧ orientationY.isFinite = true :=
    ⟨isFinite_of_field hlook hox, isFinite_of_field hlook hoy⟩
  have hvelocity : velX.isFinite = true ∧ velY.isFinite = true :=
    ⟨isFinite_of_field hlook hvx, isFinite_of_field hlook hvy⟩
  simp [GameObject.floats, hplace, horientation, hvelocity]

theorem yields_object : Yields GameObject.decode fun o => ∀ x ∈ o.floats, x.isFinite = true :=
  yields_decode "GameObject" fun _ _ hlook h => GameObject.isFinite_of_build hlook h

theorem yields_move : Yields MoveEvent.decode fun e => ∀ x ∈ e.object.floats, x.isFinite = true := by
  intro t e ht h
  cases t with
  | object members ending =>
    have hlook := looksInRange_member? (all_object.mp ht)
    obtain ⟨-, -, h⟩ := bind_ok h
    obtain ⟨-, -, h⟩ := bind_ok h
    obtain ⟨⟨session, time⟩, -, h⟩ := bind_ok h
    obtain ⟨-, -, h⟩ := bind_ok h
    obtain ⟨object, hobject, h⟩ := bind_ok h
    cases h
    exact GameObject.isFinite_of_build hlook hobject
  | _ => cases h

theorem yields_snapshot : Yields Snapshot.decode fun s =>
    ∀ os, s.objects = some os → ∀ o ∈ os, ∀ x ∈ o.floats, x.isFinite = true := by
  refine yields_decode "SessionSnapshot" ?_
  intro look s hlook h
  obtain ⟨_, time, h₁, -, rfl⟩ := Record.build_seq h
  obtain ⟨_, player, h₂, -, rfl⟩ := Record.build_seq h₁
  obtain ⟨_, objects, h₃, hobjects, rfl⟩ := Record.build_seq h₂
  obtain ⟨_, inputs, h₄, -, rfl⟩ := Record.build_seq h₃
  obtain ⟨session, -, rfl⟩ := Record.build_map h₄
  rcases build_fieldOr hobjects with ⟨-, rfl⟩ | ⟨t, ht, hobjects⟩
  · intro os hos
    cases hos
  · exact yields_optional (yields_list yields_object) t objects (hlook _ t ht) hobjects

/-- Every floating-point number of an event that has been read is finite. -/
theorem yields_event (topic : Topic) : Yields (Event.decode topic) fun e => ∀ x ∈ e.floats, x.isFinite = true := by
  intro t e ht h
  rw [Event.forall_floats]
  cases topic with
  | session | input | status =>
    obtain ⟨e, -, rfl⟩ := map_ok h
    intro o ho
    cases ho
  | move =>
    obtain ⟨e, he, rfl⟩ := map_ok h
    intro o ho
    cases List.mem_singleton.mp ho
    exact yields_move t e ht he
  | tick =>
    obtain ⟨s, hs, rfl⟩ := map_ok h
    intro o ho
    cases hobjects : s.objects with
    | none => simp [Event.objects, hobjects] at ho
    | some os =>
      have hmem : o ∈ os := by simpa [Event.objects, hobjects] using ho
      exact yields_snapshot t s ht hs os hobjects o hmem

end PaddleLink
