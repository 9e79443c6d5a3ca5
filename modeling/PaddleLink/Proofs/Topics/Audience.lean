import PaddleLink.Proofs.Topics.Dispatch

/-!
The subscribers over time. They come and go, read when they like, and batches are handed out in between until
everything is closed. What one of them gets is a matter of the batches alone.
-/

namespace PaddleLink

inductive TopicAct where
  | subscribe (topic : Topic)
  | drop (i : Nat)
  | read (i n : Nat)
  | dispatch (batch : List Event)
  | close

namespace TopicAct

def isSubscribe : TopicAct → Bool
  | .subscribe _ => true
  | _ => false

def isClose : TopicAct → Bool
  | .close => true
  | _ => false

def isCommon : TopicAct → Bool
  | .dispatch _ | .close => true
  | _ => false

def batch? : TopicAct → Option (List Event)
  | .dispatch batch => some batch
  | _ => none

def batches (acts : List TopicAct) : List (List Event) :=
  (acts.takeWhile fun x => !x.isClose).filterMap batch?

end TopicAct

/-- What batches hold for a topic. Those that hold nothing are left out. -/
def partsOf (topic : Topic) (batches : List (List Event)) : List (List Event) :=
  (batches.map (eventsOf topic)).filter fun part => !part.isEmpty

structure Audience where
  mux : Multiplexer
  received : Nat → List (List Event)

namespace Audience

def begin : Audience :=
  ⟨.empty, fun _ => []⟩

def queue (a : Audience) (i : Nat) : List (List Event) :=
  (a.mux.subscriptions[i]?.map fun (_, s) => s.queue).getD []

def step (a : Audience) : TopicAct → Audience
  | .subscribe topic => { a with mux := a.mux.subscribe topic }
  | .drop i => { a with mux := a.mux.modify i Subscription.drop }
  | .read i n =>
    { mux := a.mux.modify i fun s => { s with queue := s.queue.drop n }
      received := fun j => if j = i then a.received i ++ (a.queue i).take n else a.received j }
  | .dispatch batch => { a with mux := a.mux.dispatch batch }
  | .close => { a with mux := a.mux.close }

def run (a : Audience) (acts : List TopicAct) : Audience :=
  acts.foldl step a

theorem closed_step (a : Audience) (x : TopicAct) : (a.step x).mux.closed = (a.mux.closed || x.isClose) := by
  cases x with
  | dispatch batch =>
    by_cases hm : a.mux.closed = true
    · simp [step, Multiplexer.dispatch_of_closed, hm]
    · rw [Bool.not_eq_true] at hm
      simp [step, Multiplexer.dispatch_eq, hm, TopicAct.isClose]
  | subscribe | drop | read => simp [step, Multiplexer.subscribe, Multiplexer.modify, TopicAct.isClose]
  | close => simp [step, Multiplexer.close, TopicAct.isClose]

theorem closed_run (a : Audience) (acts : List TopicAct) :
    (a.run acts).mux.closed = (a.mux.closed || acts.any TopicAct.isClose) := by
  induction acts generalizing a with
  | nil => simp [run]
  | cons x acts ih =>
    have h := ih (a.step x)
    rw [closed_step, Bool.or_assoc] at h
    exact h

theorem length_step (a : Audience) (x : TopicAct) :
    (a.step x).mux.subscriptions.length = a.mux.subscriptions.length + [x].countP TopicAct.isSubscribe := by
  cases x with
  | dispatch batch =>
    by_cases hm : a.mux.closed = true
    · simp [step, Multiplexer.dispatch_of_closed, hm, TopicAct.isSubscribe]
    · rw [Bool.not_eq_true] at hm
      simp [step, Multiplexer.dispatch_eq, hm, TopicAct.isSubscribe]
  | subscribe => simp [step, Multiplexer.subscribe, TopicAct.isSubscribe]
  | drop | read => simp [step, Multiplexer.modify, TopicAct.isSubscribe]
  | close => simp [step, Multiplexer.close, TopicAct.isSubscribe]

theorem length_run (a : Audience) (acts : List TopicAct) :
    (a.run acts).mux.subscriptions.length =
      a.mux.subscriptions.length + acts.countP TopicAct.isSubscribe := by
  induction acts generalizing a with
  | nil => rfl
  | cons x acts ih =>
    have h := ih (a.step x)
    rw [length_step, Nat.add_assoc, ← List.countP_append] at h
    exact h

/-- A subscriber that is still there has got these batches, whether or not it has read them, and its stream has
ended or not. -/
structure Serves (a : Audience) (i : Nat) (topic : Topic) (got : List (List Event)) (ended : Bool) : Prop where
  found : ∃ s, a.mux.subscriptions[i]? = some (topic, s) ∧ s.held = true ∧ s.attached = !ended ∧
    a.received i ++ s.queue = got
  closed : ended = true → a.mux.closed = true

/-- As long as nothing is closed a batch reaches every subscriber that is still there, if it holds something for
it. -/
theorem serves_dispatch {a : Audience} {i : Nat} {topic : Topic} {got : List (List Event)}
    (h : a.Serves i topic got false) (hm : a.mux.closed = false) (batch : List Event) :
    (a.step (.dispatch batch)).Serves i topic (got ++ partsOf topic [batch]) false := by
  obtain ⟨s, hs, hheld, hattached, hgot⟩ := h.found
  refine ⟨⟨s.offer (eventsOf topic batch), ?_, ?_⟩, fun he => by cases he⟩
  · simp [step, Multiplexer.dispatch_eq _ _ hm, hs]
  · by_cases he : (eventsOf topic batch).isEmpty = true
    · have hoffer : s.offer (eventsOf topic batch) = s := by simp [Subscription.offer, he]
      have hparts : partsOf topic [batch] = [] := by simpa [partsOf] using he
      rw [hoffer, hparts, List.append_nil]
      exact ⟨hheld, hattached, hgot⟩
    · have hoffer : s.offer (eventsOf topic batch) = { s with queue := s.queue ++ [eventsOf topic batch] } := by
        simp [Subscription.offer, he, hheld, hattached]
      have hparts : partsOf topic [batch] = [eventsOf topic batch] := by simpa [partsOf] using he
      rw [hoffer, hparts, ← hgot]
      exact ⟨hheld, hattached, (List.append_assoc _ _ _).symm⟩

/-- What others do, and when a subscriber reads, is of no concern to what it gets. -/
theorem serves_step {a : Audience} {i : Nat} {topic : Topic} {got : List (List Event)} {ended : Bool}
    (h : a.Serves i topic got ended) {x : TopicAct} (hx : x ≠ .drop i) :
    (a.step x).Serves i topic (got ++ if a.mux.closed then [] else partsOf topic x.batch?.toList)
      (ended || x.isClose) := by
  have hclosed : (ended || x.isClose) = true → (a.step x).mux.closed = true := by
    rw [closed_step]
    intro he
    rcases Bool.or_eq_true _ _ ▸ he with he | he
    · simp [h.closed he]
    · simp [he]
  obtain ⟨s, hs, hheld, hattached, hgot⟩ := h.found
  have hi : i < a.mux.subscriptions.length := (List.getElem?_eq_some_iff.mp hs).1
  -- only a batch adds to what a subscriber gets; reading moves it from the queue to what was received
  cases x with
  | dispatch batch =>
    by_cases hm : a.mux.closed = true
    · have hstep : a.step (.dispatch batch) = a := by simp [step, Multiplexer.dispatch_of_closed _ _ hm]
      rw [hstep]
      simpa [hm, TopicAct.isClose] using h
    · rw [Bool.not_eq_true] at hm
      cases ended with
      | true => simp [h.closed rfl] at hm
      | false => simpa [hm, TopicAct.isClose, TopicAct.batch?] using serves_dispatch h hm batch
  | subscribe topic' =>
    refine ⟨⟨s, ?_, hheld, ?_, ?_⟩, hclosed⟩
    · simpa [step, Multiplexer.subscribe, List.getElem?_append_left hi] using hs
    · simpa [TopicAct.isClose] using hattached
    · simpa [step, TopicAct.batch?, partsOf] using hgot
  | drop j =>
    have hj : j ≠ i := fun he => hx (by rw [he])
    refine ⟨⟨s, ?_, hheld, ?_, ?_⟩, hclosed⟩
    · simpa [step, Multiplexer.modify, List.getElem?_modify, hj] using hs
    · simpa [TopicAct.isClose] using hattached
    · simpa [step, TopicAct.batch?, partsOf] using hgot
  | read j n =>
    by_cases hj : j = i
    · subst hj
      refine ⟨⟨{ s with queue := s.queue.drop n }, ?_, hheld, ?_, ?_⟩, hclosed⟩
      · simp [step, Multiplexer.modify, hs]
      · simpa [TopicAct.isClose] using hattached
      · simpa [step, TopicAct.batch?, partsOf, queue, hs] using hgot
    · refine ⟨⟨s, ?_, hheld, ?_, ?_⟩, hclosed⟩
      · simpa [step, Multiplexer.modify, List.getElem?_modify, hj] using hs
      · simpa [TopicAct.isClose] using hattached
      · simpa [step, TopicAct.batch?, partsOf, Ne.symm hj] using hgot
  | close =>
    refine ⟨⟨s.detach, ?_, hheld, ?_, ?_⟩, hclosed⟩
    · simp [step, Multiplexer.close, hs]
    · simp [Subscription.detach, TopicAct.isClose]
    · simpa [step, TopicAct.batch?, partsOf, Subscription.detach] using hgot

/-- Batches are handed out one after another until everything is closed. -/
theorem partsOf_batches_cons (topic : Topic) (x : TopicAct) (acts : List TopicAct) :
    partsOf topic (TopicAct.batches (x :: acts)) =
      partsOf topic x.batch?.toList ++ if x.isClose then [] else partsOf topic (TopicAct.batches acts) := by
  cases x with
  | dispatch batch =>
    have hcons : TopicAct.batches (.dispatch batch :: acts) = [batch] ++ TopicAct.batches acts := rfl
    rw [hcons]
    simp only [partsOf, List.map_append, List.filter_append]
    rfl
  | subscribe | drop | read | close => rfl

theorem serves_run {a : Audience} {i : Nat} {topic : Topic} {got : List (List Event)} {ended : Bool}
    (h : a.Serves i topic got ended) {acts : List TopicAct} (hacts : .drop i ∉ acts) :
    (a.run acts).Serves i topic (got ++ if a.mux.closed then [] else partsOf topic (TopicAct.batches acts))
      (ended || acts.any TopicAct.isClose) := by
  induction acts generalizing a got ended with
  | nil => simpa [run, TopicAct.batches, partsOf] using h
  | cons x acts ih =>
    obtain ⟨hx, hrest⟩ := not_or.mp (mt List.mem_cons.mpr hacts)
    have hstep := ih (serves_step h (Ne.symm hx)) hrest
    have hnews : (if a.mux.closed then [] else partsOf topic x.batch?.toList) ++
        (if (a.step x).mux.closed then [] else partsOf topic (TopicAct.batches acts)) =
        if a.mux.closed then [] else partsOf topic (TopicAct.batches (x :: acts)) := by
      rw [closed_step, partsOf_batches_cons]
      cases a.mux.closed <;> simp
    rw [List.append_assoc, hnews, Bool.or_assoc] at hstep
    exact hstep

theorem serves_subscribe (a : Audience) (topic : Topic) (hr : a.received a.mux.subscriptions.length = []) :
    (a.step (.subscribe topic)).Serves a.mux.subscriptions.length topic [] false where
  found := ⟨.fresh, by simp [step, Multiplexer.subscribe], rfl, rfl, by simp [step, hr, Subscription.fresh]⟩
  closed := fun he => by cases he

theorem received_step {a : Audience} (h : ∀ i, a.mux.subscriptions.length ≤ i → a.received i = []) (x : TopicAct)
    (i : Nat) (hi : (a.step x).mux.subscriptions.length ≤ i) : (a.step x).received i = [] := by
  rw [length_step] at hi
  have hle : a.mux.subscriptions.length ≤ i := by omega
  cases x with
  | read j n =>
    by_cases hj : i = j
    · subst hj
      simp [step, h i hle, queue, List.getElem?_eq_none hle]
    · simp [step, hj, h i hle]
  | subscribe | drop | dispatch | close => exact h i hle

theorem received_run {a : Audience} (h : ∀ i, a.mux.subscriptions.length ≤ i → a.received i = [])
    (acts : List TopicAct) (i : Nat) (hi : (a.run acts).mux.subscriptions.length ≤ i) :
    (a.run acts).received i = [] := by
  induction acts generalizing a with
  | nil => exact h i hi
  | cons x acts ih => exact ih (received_step h x) hi

theorem closed_begin_run (acts : List TopicAct) : (begin.run acts).mux.closed = acts.any TopicAct.isClose := by
  rw [closed_run]
  rfl

theorem length_begin_run (acts : List TopicAct) :
    (begin.run acts).mux.subscriptions.length = acts.countP TopicAct.isSubscribe := by
  rw [length_run]
  exact Nat.zero_add _

/-- A subscriber that has come and not gone away has got its part of every batch since then. -/
theorem subscriber_gets (before after : List TopicAct) (topic : Topic)
    (h : .drop (before.countP TopicAct.isSubscribe) ∉ after) :
    (begin.run (before ++ .subscribe topic :: after)).Serves (before.countP TopicAct.isSubscribe) topic
      (if before.any TopicAct.isClose then [] else partsOf topic (TopicAct.batches after))
      (after.any TopicAct.isClose) := by
  have hlength := length_begin_run before
  have hnothing := received_run (a := begin) (fun _ _ => rfl) before _ (Nat.le_refl _)
  have hserves := serves_run (serves_subscribe (begin.run before) topic hnothing) (hlength ▸ h)
  rw [closed_step, closed_begin_run, hlength] at hserves
  simpa [run, TopicAct.isClose] using hserves

theorem isClose_common (acts : List TopicAct) :
    (acts.filter TopicAct.isCommon).any TopicAct.isClose = acts.any TopicAct.isClose := by
  rw [List.any_filter]
  congr 1
  funext x
  cases x <;> rfl

theorem isSubscribe_common (acts : List TopicAct) :
    (acts.filter TopicAct.isCommon).countP TopicAct.isSubscribe = 0 := by
  rw [List.countP_filter, List.countP_eq_zero]
  intro x _
  cases x <;> simp [TopicAct.isSubscribe, TopicAct.isCommon]

theorem drop_not_mem_common (acts : List TopicAct) (i : Nat) : .drop i ∉ acts.filter TopicAct.isCommon := by
  intro h
  cases (List.mem_filter.mp h).2

theorem batches_common (acts : List TopicAct) :
    TopicAct.batches (acts.filter TopicAct.isCommon) = TopicAct.batches acts := by
  induction acts with
  | nil => rfl
  | cons x acts ih =>
    cases x with
    | dispatch batch => exact congrArg (batch :: ·) ih
    | subscribe | drop | read => exact ih
    | close => rfl

end Audience

/-- In every run a subscriber that has come and not gone away has got its part of every batch since then, in
order, up to the end of everything and without the parts that hold nothing; its stream has ended if everything
was closed in the meantime. It has got what it would have got alone. A batch is counted whole, and its
session events, if there are any, are reconciled once and first; after the end it leads to nothing. -/
theorem subscriber_gets_parts (before after : List TopicAct) (topic : Topic) (batch : List Event) :
    let i := before.countP TopicAct.isSubscribe
    let a := Audience.begin.run (before ++ .subscribe topic :: after)
    let alone := Audience.begin.run
      (before.filter TopicAct.isCommon ++ .subscribe topic :: after.filter TopicAct.isCommon)
    let m := (Audience.begin.run before).mux
    (.drop i ∉ after →
      ∃ s s', a.mux.subscriptions[i]? = some (topic, s) ∧
        a.received i ++ s.queue =
          (if before.any TopicAct.isClose then [] else partsOf topic (TopicAct.batches after)) ∧
        (s.attached = false ↔ after.any TopicAct.isClose = true) ∧
        alone.mux.subscriptions[0]? = some (topic, s') ∧
        a.received i ++ s.queue = alone.received 0 ++ s'.queue ∧ s.attached = s'.attached) ∧
    (before.any TopicAct.isClose = false →
      (∀ t, (m.counts batch).of t = (eventsOf t batch).length) ∧ (m.counts batch).total = batch.length ∧
      (sessionEvents batch).map .session = eventsOf .session batch ∧
      m.deliveries batch =
        (if (sessionEvents batch).isEmpty then [] else [.reconcile (sessionEvents batch)]) ++
          Topic.all.map fun t => .publish t (eventsOf t batch)) ∧
    (before.any TopicAct.isClose = true →
      m.counts batch = .zero ∧ m.deliveries batch = [] ∧ m.dispatch batch = m) := by
  intro i a alone m
  have hclosed : m.closed = before.any TopicAct.isClose := Audience.closed_begin_run before
  refine ⟨?_, ?_, ?_⟩
  · intro hafter
    obtain ⟨s, hs, -, hattached, hgot⟩ := (Audience.subscriber_gets before after topic hafter).found
    have halone := Audience.subscriber_gets (before.filter TopicAct.isCommon) (after.filter TopicAct.isCommon) topic
      (Audience.drop_not_mem_common after _)
    rw [Audience.isSubscribe_common, Audience.isClose_common, Audience.isClose_common,
      Audience.batches_common] at halone
    obtain ⟨s', hs', -, hattached', hgot'⟩ := halone.found
    refine ⟨s, s', hs, hgot, ?_, hs', hgot.trans hgot'.symm, hattached.trans hattached'.symm⟩
    rw [hattached]
    simp
  · intro hb
    have hm : m.closed = false := hclosed.trans hb
    have hcounts : m.counts batch = .ofBatch batch := by simp [Multiplexer.counts, hm]
    rw [hcounts]
    exact ⟨of_ofBatch batch, total_ofBatch batch, sessionEvents_map batch, by simp [Multiplexer.deliveries, hm]⟩
  · intro hb
    have hm : m.closed = true := hclosed.trans hb
    refine ⟨?_, ?_, Multiplexer.dispatch_of_closed m batch hm⟩
    · simp [Multiplexer.counts, hm]
    · simp [Multiplexer.deliveries, hm]

end PaddleLink
