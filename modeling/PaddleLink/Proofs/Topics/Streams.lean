import PaddleLink.Proofs.Topics.Audience

/-!
The subscribers of a topic are a stream of their own. Whatever is done with the subscribers of all topics comes to
what is done with each stream, and what is done with other topics does not concern it.
-/

namespace PaddleLink

inductive StreamAct (α : Type) where
  | subscribe
  | drop (i : Nat)
  | read (i n : Nat)
  | publish (batch : List α)
  | close

namespace SubStream

variable {α : Type}

def step (s : SubStream α) : StreamAct α → SubStream α
  | .subscribe => s.subscribe
  | .drop i => s.modify i Subscription.drop
  | .read i n => s.modify i fun x => { x with queue := x.queue.drop n }
  | .publish batch => s.publish batch
  | .close => s.close

def run (s : SubStream α) (acts : List (StreamAct α)) : SubStream α :=
  acts.foldl step s

/-- A batch reaches those who are still there, and nobody else is kept. -/
theorem count_publish (s : SubStream α) {batch : List α} (h : batch ≠ []) :
    (s.publish batch).count = s.subscriptions.countP fun x => x.attached && x.held := by
  rw [count, publish, List.countP_map]
  congr 1
  funext x
  cases hattached : x.attached <;> cases hheld : x.held <;> simp [Subscription.offer, h, hattached, hheld]

theorem reach_eq (s : SubStream α) (batch : List α) :
    s.reach batch = if batch = [] then 0 else s.subscriptions.countP fun x => x.attached && x.held := by
  by_cases h : batch = []
  · rw [h]
    rfl
  · rw [reach, if_neg h, if_neg (by simpa using h), count_publish s h]

theorem publish_nil (s : SubStream α) : s.publish [] = s := by
  have hoffer : (fun x : Subscription α => x.offer []) = id := by
    funext x
    exact if_pos (.inl rfl)
  rw [publish, hoffer, List.map_id]

theorem count_close (s : SubStream α) : s.close.count = 0 := by
  rw [count, close, List.countP_map, List.countP_eq_zero]
  exact fun x _ => Bool.false_ne_true

end SubStream

def placeOf (t : Topic) : List (Topic × Subscription Event) → (i : Nat) → Option Nat
  | [], _ => none
  | (t', _) :: _, 0 => if t' = t then some 0 else none
  | (t', _) :: ps, i + 1 => (placeOf t ps i).map fun j => if t' = t then j + 1 else j

def queuesOf (t : Topic) (ps : List (Topic × Subscription Event)) : List (Subscription Event) :=
  ps.filterMap fun (t', s) => if t' = t then some s else none

theorem queuesOf_cons (t t' : Topic) (s : Subscription Event) (ps : List (Topic × Subscription Event)) :
    queuesOf t ((t', s) :: ps) = if t' = t then s :: queuesOf t ps else queuesOf t ps := by
  by_cases h : t' = t <;> simp [queuesOf, h]

theorem queuesOf_modify (t : Topic) (f : Subscription Event → Subscription Event)
    (ps : List (Topic × Subscription Event)) (i : Nat) :
    queuesOf t (ps.modify i fun (t', s) => (t', f s)) =
      (placeOf t ps i).elim (queuesOf t ps) fun j => (queuesOf t ps).modify j f := by
  induction ps generalizing i with
  | nil => simp [placeOf]
  | cons p ps ih =>
    obtain ⟨t', s⟩ := p
    cases i with
    | zero => by_cases h : t' = t <;> simp [placeOf, queuesOf_cons, h]
    | succ i => cases hplace : placeOf t ps i <;> by_cases h : t' = t <;> simp [placeOf, queuesOf_cons, h, ih, hplace]

namespace Multiplexer

def stream (m : Multiplexer) (t : Topic) : SubStream Event :=
  ⟨queuesOf t m.subscriptions⟩

theorem stream_subscribe (m : Multiplexer) (t t' : Topic) :
    (m.subscribe t').stream t = if t' = t then (m.stream t).subscribe else m.stream t := by
  by_cases h : t' = t <;> simp [stream, queuesOf, subscribe, SubStream.subscribe, h]

/-- What is done with the queues of one topic is done with the stream. -/
theorem stream_map (m : Multiplexer) (t : Topic) (closed : Bool) (f : Topic → Subscription Event → Subscription Event) :
    stream ⟨m.subscriptions.map fun (t', s) => (t', f t' s), closed⟩ t = ⟨(m.stream t).subscriptions.map (f t)⟩ := by
  rw [stream, stream, queuesOf, queuesOf, List.filterMap_map, List.map_filterMap]
  congr 2
  funext ⟨t', s⟩
  by_cases h : t' = t <;> simp [h]

theorem stream_dispatch (m : Multiplexer) (batch : List Event) (t : Topic) (hm : m.closed = false) :
    (m.dispatch batch).stream t = (m.stream t).publish (eventsOf t batch) := by
  rw [dispatch_eq m batch hm]
  exact stream_map m t m.closed fun t' s => s.offer (eventsOf t' batch)

theorem stream_close (m : Multiplexer) (t : Topic) : m.close.stream t = (m.stream t).close :=
  stream_map m t true fun _ => Subscription.detach

theorem stream_renew (m : Multiplexer) (t : Topic) : m.renew.stream t = (m.stream t).close :=
  stream_close m t

theorem stream_modify (m : Multiplexer) (i : Nat) (f : Subscription Event → Subscription Event) (t : Topic) :
    (m.modify i f).stream t = (placeOf t m.subscriptions i).elim (m.stream t) fun j => (m.stream t).modify j f := by
  have hqueues := queuesOf_modify t f m.subscriptions i
  rw [stream, stream]
  cases hplace : placeOf t m.subscriptions i <;> rw [hplace] at hqueues <;> exact congrArg SubStream.mk hqueues

/-- What an act is for the stream of a topic, unless it is none of its business. -/
def streamAct? (m : Multiplexer) (t : Topic) : TopicAct → Option (StreamAct Event)
  | .subscribe t' => if t' = t then some .subscribe else none
  | .drop i => (placeOf t m.subscriptions i).map .drop
  | .read i n => (placeOf t m.subscriptions i).map fun j => .read j n
  | .dispatch batch => if m.closed then none else some (.publish (eventsOf t batch))
  | .close => some .close

end Multiplexer

namespace Audience

theorem stream_step (a : Audience) (x : TopicAct) (t : Topic) :
    (a.step x).mux.stream t = (a.mux.streamAct? t x).elim (a.mux.stream t) (a.mux.stream t).step := by
  cases x with
  | subscribe t' =>
    refine (a.mux.stream_subscribe t t').trans ?_
    by_cases h : t' = t <;> simp [Multiplexer.streamAct?, SubStream.step, h]
  | drop i =>
    refine (a.mux.stream_modify i _ t).trans ?_
    rw [Multiplexer.streamAct?]
    cases placeOf t a.mux.subscriptions i <;> rfl
  | read i n =>
    refine (a.mux.stream_modify i _ t).trans ?_
    rw [Multiplexer.streamAct?]
    cases placeOf t a.mux.subscriptions i <;> rfl
  | dispatch batch =>
    rw [step, Multiplexer.streamAct?]
    cases hm : a.mux.closed with
    | true =>
      rw [Multiplexer.dispatch_of_closed _ _ hm]
      rfl
    | false => exact a.mux.stream_dispatch batch t hm
  | close => exact a.mux.stream_close t

def streamActs (t : Topic) : Audience → List TopicAct → List (StreamAct Event)
  | _, [] => []
  | a, x :: acts => (a.mux.streamAct? t x).toList ++ streamActs t (a.step x) acts

/-- The stream of a topic goes its own way. -/
theorem stream_run (a : Audience) (acts : List TopicAct) (t : Topic) :
    (a.run acts).mux.stream t = (a.mux.stream t).run (streamActs t a acts) := by
  induction acts generalizing a with
  | nil => rfl
  | cons x acts ih =>
    have hstep : (a.mux.stream t).run (a.mux.streamAct? t x).toList = (a.step x).mux.stream t := by
      rw [stream_step]
      cases a.mux.streamAct? t x <;> rfl
    calc (a.run (x :: acts)).mux.stream t
      _ = ((a.step x).mux.stream t).run (streamActs t (a.step x) acts) := ih (a.step x)
      _ = ((a.mux.stream t).run (a.mux.streamAct? t x).toList).run (streamActs t (a.step x) acts) := by rw [hstep]
      _ = (a.mux.stream t).run (streamActs t a (x :: acts)) := (List.foldl_append ..).symm

end Audience

end PaddleLink
