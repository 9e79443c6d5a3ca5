import PaddleLink.Proofs.Client.Trail

namespace PaddleLink

def Happening.ahead? (g : Lag) : Happening → Option Happening
  | .push i text => (g.connection? i).map fun j => .push j text
  | .hangUp i => (g.connection? i).map .hangUp
  | .dropServer i => (g.connection? i).map .dropServer
  | .fail i e => (g.connection? i).map fun j => .fail j e
  | .turn i => (g.connection? i).map .turn
  | .read i => (g.subscriber? i).map .read
  | .unsubscribe i => (g.subscriber? i).map .unsubscribe
  | x => some x

def Happening.behind (g : Lag) : Happening → Happening
  | .push j text => .push (g.connection j) text
  | .hangUp j => .hangUp (g.connection j)
  | .dropServer j => .dropServer (g.connection j)
  | .fail j e => .fail (g.connection j) e
  | .turn j => .turn (g.connection j)
  | .read j => .read (g.subscriber j)
  | .unsubscribe j => .unsubscribe (g.subscriber j)
  | x => x

theorem Happening.ahead?_behind (g : Lag) (x : Happening) : (x.behind g).ahead? g = some x := by
  cases x <;> simp [behind, ahead?]

/-- Whether something leaves no trace of an earlier failure. -/
def Happening.clears : Happening → Bool
  | .start .. | .reset => true
  | _ => false

inductive Answer : Type 1 where
  | started (result : Except SessionError Session) (acts : List Act)
  | typed (changed : Bool)
  | pumped (count : Nat)
  | framed {σ : Type} (inputs : List Input) (scene : σ)
  | sent (sent : Bool)
  | tick (s : Option Snapshot)
  | read (found : Option (Subscription Event))
  | nothing

namespace Timeline

def answer (t : Timeline) : Happening → Answer
  | .start endpoint server s =>
    let started := t.client.start t.now endpoint server s
    .started started.result started.acts
  | .type e => .typed (t.client.keyboard.isChangedBy e)
  | .pump => .pumped t.client.pump.2
  | .frame sim scene seconds =>
    let frame := t.client.frame sim scene t.now seconds
    .framed frame.inputs frame.scene
  | .sendSnapshot objects => .sent (t.client.sendSnapshot t.now objects).2
  | .nextTick => .tick t.client.nextTick.2
  | .read i => .read (t.client.topics.subscriptions[i]?.map Prod.snd)
  | _ => .nothing

/-- A client over time and one behind it. -/
structure Trails (g : Lag) (s? : Option Status) (t t' : Timeline) : Prop where
  client : t.client.Trails g s? t'.client
  now : t'.now = t.now + g.time

variable {g : Lag} {s? : Option Status} {t t' : Timeline}

theorem Trails.onConnection (h : t.Trails g s? t') {f f' : Connection → Connection}
    (hf : ∀ {a b}, Connection.Later g.time a b → Connection.Later g.time (f a) (f' b)) {make : Nat → Happening}
    (hmake : ∀ j, t.step (make j) = { t with client := t.client.onConnection j f }) (i : Nat) :
    (((g.connection? i).map make).elim t t.step).Trails g s? { t' with client := t'.client.onConnection i f' } := by
  have hconnections := h.client.connections.modify hf i
  cases hi : g.connection? i with
  | none =>
    rw [hi] at hconnections
    exact ⟨{ h.client with connections := hconnections }, h.now⟩
  | some j =>
    rw [hi] at hconnections
    rw [Option.map_some, Option.elim_some, hmake]
    exact ⟨{ h.client with connections := hconnections }, h.now⟩

theorem Trails.onTopics (h : t.Trails g s? t') {f : Subscription Event → Subscription Event}
    (hf : ∀ s, s.attached = false → (f s).attached = false) {make : Nat → Happening}
    (hmake : ∀ j, t.step (make j) = { t with client := t.client.onTopics fun m => m.modify j f }) (i : Nat) :
    (((g.subscriber? i).map make).elim t t.step).Trails g s?
      { t' with client := t'.client.onTopics fun m => m.modify i f } := by
  have htopics := h.client.topics.modify hf i
  change ((g.subscriber? i).elim t.client.topics fun j => t.client.topics.modify j f).Trails _ _ at htopics
  cases hi : g.subscriber? i with
  | none =>
    rw [hi] at htopics
    exact ⟨{ h.client with topics := htopics }, h.now⟩
  | some j =>
    rw [hi] at htopics
    rw [Option.map_some, Option.elim_some, hmake]
    exact ⟨{ h.client with topics := htopics }, h.now⟩

/-- One after another, the clients stay as they are to each other. -/
theorem Trails.step (h : t.Trails g s? t') (hsound : t.client.Sound) (hsound' : t'.client.Sound) (x : Happening) :
    ((x.ahead? g).elim t t.step).Trails g (if x.clears then none else s?) (t'.step x) := by
  have hnow := h.now
  cases x with
  | start endpoint server s =>
    obtain ⟨-, hacts, hclient⟩ := h.client.start t.now endpoint server s
    rw [← hnow] at hacts hclient
    refine ⟨hclient, ?_⟩
    change t'.now + duration _ = t.now + duration _ + g.time
    rw [hacts, hnow, Nat.add_right_comm]
  | type e => exact ⟨h.client.type e, hnow⟩
  | pump => exact ⟨(h.client.pump hsound hsound').1, hnow⟩
  | frame sim scene seconds =>
    have hpumped := (h.client.pump hsound hsound').1
    -- the simulations are moved by the same inputs, so the snapshots have the same objects
    have hcurrent : t'.client.pump.1.composer.current = t.client.pump.1.composer.current := by
      rw [hpumped.composer]
    have hsent := (hpumped.sendSnapshot t.now
      (sim.objects (sim.step scene t.client.pump.1.composer.current seconds))).1
    refine ⟨?_, hnow⟩
    change Client.Trails g s? _ (t'.client.pump.1.sendSnapshot t'.now
      (sim.objects (sim.step scene t'.client.pump.1.composer.current seconds))).1
    rw [hcurrent, hnow]
    exact hsent
  | sendSnapshot objects =>
    have hsent := (h.client.sendSnapshot t.now objects).1
    rw [← hnow] at hsent
    exact ⟨hsent, hnow⟩
  | nextTick => exact ⟨h.client.nextTick, hnow⟩
  | reset => exact ⟨h.client.reset, hnow⟩
  | subscribe topic => exact ⟨{ h.client with topics := h.client.topics.subscribe topic }, hnow⟩
  | read i => exact h.onTopics (f := Subscription.clear) (fun _ hs => hs) (fun _ => rfl) i
  | unsubscribe i => exact h.onTopics (f := Subscription.drop) (fun _ hs => hs) (fun _ => rfl) i
  | push i text => exact h.onConnection (fun hab => hnow ▸ hab.push t.now text) (fun _ => rfl) i
  | hangUp i => exact h.onConnection (fun hab => hnow ▸ hab.hangUp t.now) (fun _ => rfl) i
  | dropServer i => exact h.onConnection (fun hab => hnow ▸ hab.dropServer t.now) (fun _ => rfl) i
  | fail i e => exact h.onConnection (fun hab => hnow ▸ hab.deliver t.now (.failure e)) (fun _ => rfl) i
  | turn i => exact h.onConnection (fun hab => hnow ▸ hab.turn t.now) (fun _ => rfl) i
  | settle =>
    have hsettled := h.client.settle t.now
    rw [← hnow] at hsettled
    exact ⟨hsettled, hnow⟩
  | pass ms =>
    have hpassed := h.client.pass t.now (t.now + ms)
    rw [Nat.add_right_comm, ← hnow] at hpassed
    refine ⟨hpassed, ?_⟩
    change t'.now + ms = t.now + ms + g.time
    rw [hnow, Nat.add_right_comm]

theorem Trails.answer_eq (h : t.Trails g s? t') (hsound : t.client.Sound) (hsound' : t'.client.Sound)
    {x x' : Happening} (hx : x.ahead? g = some x') : t'.answer x = t.answer x' := by
  have hnow := h.now
  cases x with
  | start endpoint server s =>
    cases hx
    obtain ⟨hresult, hacts, -⟩ := h.client.start t.now endpoint server s
    rw [← hnow] at hresult hacts
    simp only [answer, hresult, hacts]
  | type e =>
    cases hx
    simp only [answer, h.client.keyboard]
  | pump =>
    cases hx
    simp only [answer, (h.client.pump hsound hsound').2]
  | frame sim scene seconds =>
    cases hx
    have hcurrent : t'.client.pump.1.composer.current = t.client.pump.1.composer.current := by
      rw [(h.client.pump hsound hsound').1.composer]
    simp only [answer, Client.frame, hcurrent]
  | sendSnapshot objects =>
    cases hx
    simp only [answer, hnow, (h.client.sendSnapshot t.now objects).2]
  | nextTick =>
    cases hx
    simp only [answer, Client.nextTick, h.client.ticks]
  | read i =>
    obtain ⟨j, hj, rfl⟩ := Option.map_eq_some_iff.mp hx
    have hlate : g.ended ≤ i ∧ i - g.ended = j := by
      unfold Lag.subscriber? at hj
      split at hj
      · cases hj
      · cases hj
        omega
    have hsame : t.client.topics.subscriptions[j]? = t'.client.topics.subscriptions[i]? := by
      rw [← h.client.topics.rest, List.getElem?_drop, ← hlate.2, Nat.add_sub_cancel' hlate.1]
    simp only [answer, hsame]
  | unsubscribe | push | hangUp | dropServer | fail | turn =>
    obtain ⟨j, -, rfl⟩ := Option.map_eq_some_iff.mp hx
    rfl
  | reset | subscribe | settle | pass =>
    cases hx
    rfl

theorem Trails.run (h : t.Trails g s? t') (hsound : t.client.Sound) (hsound' : t'.client.Sound) (xs : List Happening) :
    (t.run (xs.filterMap (Happening.ahead? g))).Trails g (if xs.any Happening.clears then none else s?)
      (t'.run xs) := by
  induction xs generalizing s? t t' with
  | nil => exact h
  | cons x xs ih =>
    have hstep := h.step hsound hsound' x
    have hnext : (t.run ((x :: xs).filterMap (Happening.ahead? g))) =
        ((x.ahead? g).elim t t.step).run (xs.filterMap (Happening.ahead? g)) := by
      cases hx : x.ahead? g with
      | none => rw [List.filterMap_cons_none hx]; rfl
      | some x' => rw [List.filterMap_cons_some hx]; rfl
    have hsound₁ : ((x.ahead? g).elim t t.step).client.Sound := by
      cases x.ahead? g with
      | none => exact hsound
      | some x' => exact sound_step hsound x'
    have hcleared : (if (x :: xs).any Happening.clears then none else s?) =
        if xs.any Happening.clears then none else if x.clears then none else s? := by
      cases hx : x.clears <;> simp [hx]
    rw [hnext, hcleared]
    exact ih hstep hsound₁ (sound_step hsound' x)

end Timeline

end PaddleLink
