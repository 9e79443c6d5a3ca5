import PaddleLink.Proofs.Client.Timeline
import PaddleLink.Proofs.Transport.Delay

namespace PaddleLink

/-- How far a client is behind another one. -/
structure Lag where
  time : Nat
  /-- The number of the oldest connections of both, which need not be alike. -/
  shared : Nat
  /-- The number of connections behind these that only the client behind has had. -/
  omitted : Nat
  ended : Nat
  /-- How often more its published inputs were marked. -/
  marks : Nat

def Lag.connection? (g : Lag) (i : Nat) : Option Nat :=
  if i < g.shared then some i
  else if i < g.shared + g.omitted then none
  else some (i - g.omitted)

def Lag.subscriber? (g : Lag) (i : Nat) : Option Nat :=
  if i < g.ended then none else some (i - g.ended)

namespace Lag

variable (g : Lag)

def connection (j : Nat) : Nat :=
  if j < g.shared then j else j + g.omitted

def subscriber (j : Nat) : Nat :=
  j + g.ended

theorem connection?_of_le {j : Nat} (hj : g.shared ≤ j) : g.connection? (j + g.omitted) = some j := by
  rw [connection?, if_neg (by omega), if_neg (by omega), Nat.add_sub_cancel]

@[simp] theorem connection?_connection (j : Nat) : g.connection? (g.connection j) = some j := by
  unfold connection
  split
  · rename_i hj
    exact if_pos hj
  · rename_i hj
    exact g.connection?_of_le (Nat.le_of_not_lt hj)

@[simp] theorem subscriber?_subscriber (j : Nat) : g.subscriber? (g.subscriber j) = some j := by
  rw [subscriber?, subscriber, if_neg (by omega), Nat.add_sub_cancel]

end Lag

structure Connection.Later (d : Nat) (k k' : Connection) : Prop where
  url : k'.url = k.url
  link : k.link.Later d k'.link
  server : k'.server = k.server
  abandoned : k'.abandoned = k.abandoned

namespace Connection

variable {d : Nat} {k k' : Connection}

theorem later_fresh (d : Nat) (url : Url) (target : Target) (listens : Bool) (now : Nat) :
    (fresh url target listens now).Later d (fresh url target listens (now + d)) := by
  unfold fresh
  split
  · exact ⟨rfl, ⟨rfl, rfl, rfl, rfl, .nil, .nil, rfl, rfl, rfl, rfl⟩, rfl, rfl⟩
  · exact ⟨rfl, ⟨rfl, rfl, rfl, rfl, .nil, .nil, rfl, rfl, rfl, rfl⟩, rfl, rfl⟩

theorem Later.abandon (h : k.Later d k') : k.abandon.Later d k'.abandon :=
  { h with link := { h.link with phase := rfl }, abandoned := rfl }

theorem Later.mapLink (h : k.Later d k') {f f' : Link → Link}
    (hf : ∀ {l l' : Link}, l.Later d l' → (f l).Later d (f' l')) : (k.mapLink f).Later d (k'.mapLink f') :=
  { h with link := hf h.link }

theorem Later.deliver (h : k.Later d k') (now : Nat) (a : Arrival) :
    (k.deliver now a).Later d (k'.deliver (now + d) a) := by
  have harrivals : (k'.deliver (now + d) a).link.socket.arrivals =
      (k.deliver now a).link.socket.arrivals.map fun p => (p.1 + d, p.2) := by
    simp [Connection.deliver, h.link.arrivals]
  exact { h with link := { h.link with arrivals := harrivals } }

theorem Later.push (h : k.Later d k') (now : Nat) (text : String) :
    (k.push now text).Later d (k'.push (now + d) text) := by
  have hreachable : k'.isReachable = k.isReachable := by simp [isReachable, h.server, h.link.phase]
  unfold Connection.push
  rw [hreachable]
  split
  · exact h.deliver now _
  · exact h

theorem Later.hangUp (h : k.Later d k') (now : Nat) : (k.hangUp now).Later d (k'.hangUp (now + d)) := by
  unfold Connection.hangUp
  rw [h.server]
  split
  · exact { h.deliver now .hangUp with server := rfl }
  · exact h

theorem Later.dropServer (h : k.Later d k') (now : Nat) : (k.dropServer now).Later d (k'.dropServer (now + d)) := by
  have hhung := h.hangUp now
  exact { hhung with server := rfl, link := { hhung.link with sendFault := rfl } }

theorem Later.turn (h : k.Later d k') (now : Nat) : (k.turn now).Later d (k'.turn (now + d)) :=
  { h with link := h.link.turn now }

end Connection

structure Connections.Trails (g : Lag) (k k' : Connections) : Prop where
  base : k'.base = k.base
  policy : k'.policy = k.policy
  shared : g.shared ≤ k.past.length
  omitted : g.shared + g.omitted ≤ k'.past.length
  past : List.Forall₂ (Connection.Later g.time) (k.past.drop g.shared) (k'.past.drop (g.shared + g.omitted))
  held : Option.Rel (Connection.Later g.time) k.held k'.held

theorem forall₂_modify {α β : Type} {R : α → β → Prop} {f : α → α} {f' : β → β} {as : List α} {bs : List β}
    (h : List.Forall₂ R as bs) (hf : ∀ {a b}, R a b → R (f a) (f' b)) (i : Nat) :
    List.Forall₂ R (as.modify i f) (bs.modify i f') := by
  induction h generalizing i with
  | nil => cases i <;> exact .nil
  | cons hab hrest ih =>
    cases i with
    | zero => exact .cons (hf hab) hrest
    | succ i => exact .cons hab (ih i)

theorem rel_map {α β : Type} {R : α → β → Prop} {f : α → α} {f' : β → β} {a : Option α} {b : Option β}
    (h : Option.Rel R a b) (hf : ∀ {a b}, R a b → R (f a) (f' b)) : Option.Rel R (a.map f) (b.map f') := by
  cases h with
  | none => exact .none
  | some hab => exact .some (hf hab)

namespace Connections

variable {g : Lag} {k k' : Connections}

theorem Trails.length_past (h : k.Trails g k') : k'.past.length = k.past.length + g.omitted := by
  have hlength := h.past.length_eq
  rw [List.length_drop, List.length_drop] at hlength
  have hshared := h.shared
  have homitted := h.omitted
  omega

theorem Trails.isOpen (h : k.Trails g k') : k'.isOpen = k.isOpen := by
  have hheld := h.held
  unfold Connections.isOpen
  generalize k.held = a, k'.held = b at hheld
  cases hheld with
  | none => rfl
  | some hab => exact hab.link.isOpen

theorem Trails.mapAll (h : k.Trails g k') {f f' : Connection → Connection}
    (hf : ∀ {a b}, Connection.Later g.time a b → Connection.Later g.time (f a) (f' b)) :
    (k.mapAll f).Trails g (k'.mapAll f') where
  base := h.base
  policy := h.policy
  shared := by rw [Connections.mapAll, List.length_map]; exact h.shared
  omitted := by rw [Connections.mapAll, List.length_map]; exact h.omitted
  past := by
    simp only [Connections.mapAll, ← List.map_drop]
    exact List.rel_map (fun _ _ hab => hf hab) h.past
  held := rel_map h.held hf

theorem Trails.mapHeld (h : k.Trails g k') {f f' : Link → Link}
    (hf : ∀ {l l' : Link}, l.Later g.time l' → (f l).Later g.time (f' l')) : (k.mapHeld f).Trails g (k'.mapHeld f') :=
  { h with held := rel_map h.held fun hab => hab.mapLink hf }

theorem Trails.settle (h : k.Trails g k') (now : Nat) : (k.settle now).Trails g (k'.settle (now + g.time)) :=
  h.mapAll fun hab => hab.mapLink fun hl => hl.settle now

/-- New connections of both are added behind all others. -/
theorem Trails.append (h : k.Trails g k') {as bs : List Connection}
    (hab : List.Forall₂ (Connection.Later g.time) as bs) :
    ({ k with past := k.past ++ as } : Connections).Trails g { k' with past := k'.past ++ bs } where
  base := h.base
  policy := h.policy
  shared := by rw [List.length_append]; exact Nat.le_add_right_of_le h.shared
  omitted := by rw [List.length_append]; exact Nat.le_add_right_of_le h.omitted
  past := by
    rw [List.drop_append_of_le_length h.shared, List.drop_append_of_le_length h.omitted]
    exact List.rel_append h.past hab
  held := h.held

theorem Trails.close (h : k.Trails g k') : k.close.Trails g k'.close := by
  have hclosed : List.Forall₂ (Connection.Later g.time) (k.held.map fun a => a.mapLink Link.close).toList
      (k'.held.map fun b => b.mapLink Link.close).toList := by
    have hheld := h.held
    generalize k.held = a, k'.held = b at hheld
    cases hheld with
    | none => exact .nil
    | some hab => exact .cons (hab.mapLink fun hl => hl.close) .nil
  exact { h.append hclosed with held := .none }

/-- What happens to a connection of the client behind happens to the same one of the client ahead. What happens to
one that only the client behind has had does not matter. -/
theorem Trails.modify (h : k.Trails g k') {f f' : Connection → Connection}
    (hf : ∀ {a b}, Connection.Later g.time a b → Connection.Later g.time (f a) (f' b)) (i : Nat) :
    ((g.connection? i).elim k fun j => k.modify j f).Trails g (k'.modify i f') := by
  have hlength := h.length_past
  have hshared := h.shared
  have homitted := h.omitted
  unfold Lag.connection?
  split
  · rename_i hold
    rw [Option.elim_some, Connections.modify, if_pos (by omega), Connections.modify, if_pos (by omega)]
    refine { h with shared := ?_, omitted := ?_, past := ?_ }
    · rw [List.length_modify]; exact hshared
    · rw [List.length_modify]; exact homitted
    · rw [List.drop_modify_of_lt _ _ _ _ hold, List.drop_modify_of_lt _ _ _ _ (by omega)]
      exact h.past
  · split
    · rename_i hold homit
      rw [Option.elim_none, Connections.modify, if_pos (by omega)]
      refine { h with omitted := ?_, past := ?_ }
      · rw [List.length_modify]; exact homitted
      · rw [List.drop_modify_of_lt _ _ _ _ homit]
        exact h.past
    · rename_i hold homit
      rw [Option.elim_some]
      by_cases hi : i < k'.past.length
      · rw [Connections.modify, if_pos (by omega), Connections.modify, if_pos hi]
        refine { h with shared := ?_, omitted := ?_, past := ?_ }
        · rw [List.length_modify]; exact hshared
        · rw [List.length_modify]; exact homitted
        · rw [List.drop_modify_of_ge _ _ _ _ (by omega), List.drop_modify_of_ge _ _ _ _ (by omega)]
          have hsame : i - g.omitted - g.shared = i - (g.shared + g.omitted) := by omega
          rw [hsame]
          exact forall₂_modify h.past hf _
      · rw [Connections.modify, if_neg (by omega), Connections.modify, if_neg hi]
        by_cases hheld : i = k'.past.length
        · rw [if_pos (by omega), if_pos hheld]
          exact { h with held := rel_map h.held hf }
        · rw [if_neg (by omega), if_neg hheld]
          exact h

theorem Trails.afterHandshake (h : k.Trails g k') (now : Nat) (listens : Bool) (url : Url) (target : Target)
    (s : Handshake) :
    let a := k.afterHandshake now listens url target s
    let a' := k'.afterHandshake (now + g.time) listens url target s
    a'.result = a.result ∧ a'.elapsed = a.elapsed ∧ a.connections.Trails g a'.connections := by
  let waited (k : Connections) (now : Nat) := if s.elapsed = 0 then k else k.settle now
  have hwaited : (waited k now).Trails g (waited k' (now + g.time)) := by
    simp only [waited]
    split
    · exact h
    · exact h.settle now
  have hfresh : (Connection.fresh url target listens (now + s.elapsed)).Later g.time
      (Connection.fresh url target listens (now + g.time + s.elapsed)) := by
    rw [Nat.add_right_comm]
    exact Connection.later_fresh g.time url target listens _
  unfold Connections.afterHandshake
  cases s.result with
  | ok u => exact ⟨rfl, rfl, { hwaited with held := .some hfresh }⟩
  | error e =>
    refine ⟨rfl, rfl, ?_⟩
    simp only
    split
    · exact hwaited.append (.cons hfresh.abandon .nil)
    · exact hwaited

theorem Trails.connect (h : k.Trails g k') (now : Nat) (server : Server) (target : Target) :
    let a := k.connect now server target
    let a' := k'.connect (now + g.time) server target
    a'.result = a.result ∧ a'.elapsed = a.elapsed ∧ a.connections.Trails g a'.connections := by
  have hheld : k'.held.map (fun b => b.link.target) = k.held.map fun a => a.link.target := by
    have hrel := h.held
    generalize k.held = a, k'.held = b at hrel
    cases hrel with
    | none => rfl
    | some hab => exact congrArg some hab.link.target
  unfold Connections.connect
  rw [h.isOpen, hheld]
  split
  · exact ⟨rfl, rfl, h⟩
  · have hclosed := h.close
    simp only [hclosed.base, hclosed.policy]
    split
    · exact ⟨rfl, rfl, hclosed⟩
    · exact hclosed.afterHandshake now server.listens _ target _

end Connections

end PaddleLink
