import Mathlib.Data.List.DropRight
import PaddleLink.Proofs.Client.Timeline
import PaddleLink.Proofs.Lobby.Seat
import PaddleLink.Proofs.Topics.Dispatch

/-!
The client's own queues. They are filled and read with every batch, so that between batches nothing is in them, and
what the client itself makes of a batch is a matter of this batch alone.
-/

namespace PaddleLink

theorem rtake_eq_self {α : Type} {l : List α} {n : Nat} (h : l.length ≤ n) : l.rtake n = l := by
  rw [List.rtake, Nat.sub_eq_zero_of_le h, List.drop_zero]

theorem length_rtake_le {α : Type} (l : List α) (n : Nat) : (l.rtake n).length ≤ n := by
  rw [List.rtake, List.length_drop]
  omega

namespace Subscription

variable {α : Type}

/-- A queue that holds nothing more than a batch, unless this is empty. -/
theorem offer_fresh (batch : List α) :
    (fresh.offer batch : Subscription α) = ⟨if batch.isEmpty then [] else [batch], true, true⟩ := by
  cases batch <;> rfl

theorem clear_offer_fresh (batch : List α) : (fresh.offer batch).clear = (fresh : Subscription α) := by
  rw [offer_fresh]
  rfl

/-- Reading a queue that was offered one batch comes to reading this batch, if an empty one changes nothing. -/
theorem foldl_offer_fresh {β : Type} {f : β → List α → β} {b : β} (batch : List α) (hf : f b [] = b) :
    (fresh.offer batch).queue.foldl f b = f b batch := by
  rw [offer_fresh]
  cases batch with
  | nil => exact hf.symm
  | cons => rfl

end Subscription

namespace Feeds

def hear (f : Feeds) (batch : List Event) : Feeds :=
  ⟨f.input.offer (inputEvents batch), f.ticks.offer (tickEvents batch), f.status.offer (statusEvents batch)⟩

theorem foldl_deliver (f : Feeds) (batch : List Event) :
    (Topic.all.map fun t => Delivery.publish t (eventsOf t batch)).foldl deliver f = f.hear batch := by
  simp only [Topic.all, List.map_cons, List.map_nil, List.foldl_cons, List.foldl_nil, deliver, hear,
    inputEvents_eventsOf, tickEvents_eventsOf, statusEvents_eventsOf]

theorem clear_hear_fresh (batch : List Event) : (fresh.hear batch).clear = fresh := by
  simp only [hear, clear, fresh, Subscription.clear_offer_fresh]

end Feeds

namespace Client

/-- A client between batches: it is open for the next one and has read all of those before. -/
structure Attentive (c : Client) : Prop where
  streams : c.topics.closed = false
  feeds : c.feeds = .fresh
  room : c.ticks.length ≤ tickLimit

theorem Attentive.of_same {c c' : Client} (h : c.Attentive) (hstreams : c'.topics.closed = c.topics.closed)
    (hfeeds : c'.feeds = c.feeds) (hticks : c'.ticks = c.ticks) : c'.Attentive :=
  ⟨hstreams.trans h.streams, hfeeds.trans h.feeds, hticks ▸ h.room⟩

/-- What the client itself makes of a batch, after the session has been brought up to date. -/
def keep (c : Client) (batch : List Event) : Client :=
  let changed := !(sessionEvents batch).isEmpty || c.composer.remote.changedByAny c.me (inputEvents batch)
  let c := { c with
    composer := c.composer.record c.me (inputEvents batch)
    ticks := addTicks c.ticks (tickEvents batch)
    score := (statusEvents batch).getLast?.or c.score }
  if changed then c.refresh else c

theorem keep_rest (c : Client) (batch : List Event) :
    c.keep batch = { c with
      composer := (c.keep batch).composer
      ticks := (c.keep batch).ticks
      score := (c.keep batch).score } := by
  unfold keep
  simp only
  split <;> rfl

theorem ticks_keep (c : Client) (batch : List Event) :
    (c.keep batch).ticks = (c.ticks ++ tickEvents batch).rtake tickLimit := by
  unfold keep
  simp only
  split <;> rfl

theorem addTicks_nil {ticks : List Snapshot} (h : ticks.length ≤ tickLimit) : addTicks ticks [] = ticks := by
  change (ticks ++ []).rtake tickLimit = ticks
  rw [List.append_nil, rtake_eq_self h]

/-- Reading what the queues were offered of a batch comes to keeping what there is in it. -/
theorem drain_eq_keep {c : Client} {batch : List Event} (hfeeds : c.feeds = Feeds.fresh.hear batch)
    (hroom : c.ticks.length ≤ tickLimit) :
    c.drain (!(sessionEvents batch).isEmpty) = ({ c with feeds := .fresh } : Client).keep batch := by
  have hinput : c.composer.recordAll c.me c.feeds.input.queue =
      (c.composer.record c.me (inputEvents batch),
        c.composer.remote.changedByAny c.me (inputEvents batch)) := by
    rw [hfeeds]
    exact (Subscription.foldl_offer_fresh (inputEvents batch) rfl).trans (by simp only [Bool.false_or])
  have hticks : c.feeds.ticks.queue.foldl addTicks c.ticks = addTicks c.ticks (tickEvents batch) := by
    rw [hfeeds]
    exact Subscription.foldl_offer_fresh (tickEvents batch) (addTicks_nil hroom)
  have hscore : c.feeds.status.queue.foldl (fun score new => new.getLast?.or score) c.score =
      (statusEvents batch).getLast?.or c.score := by
    rw [hfeeds]
    exact Subscription.foldl_offer_fresh (statusEvents batch) rfl
  have hread : c.feeds.clear = .fresh := by rw [hfeeds, Feeds.clear_hear_fresh]
  simp only [drain, hinput, hticks, hscore, hread]
  rfl

theorem foldl_publish_lobby (c : Client) (batch : List Event) (ts : List Topic) :
    ((ts.map fun t => Delivery.publish t (eventsOf t batch)).foldl deliver c).lobby = c.lobby := by
  induction ts generalizing c with
  | nil => rfl
  | cons t ts ih =>
    rw [List.map_cons, List.foldl_cons, ih]
    rfl

/-- A batch changes the lobby as its session events say, unless the streams have ended. -/
theorem foldl_deliver_lobby (c : Client) (batch : List Event) :
    ((c.topics.deliveries batch).foldl deliver c).lobby =
      if c.topics.closed then c.lobby else c.lobby.after (c.lobby.reconcileAll (sessionEvents batch)) := by
  unfold Multiplexer.deliveries
  by_cases hc : c.topics.closed
  · simp [hc]
  · rw [if_neg hc, if_neg hc, List.foldl_append, foldl_publish_lobby]
    by_cases he : (sessionEvents batch).isEmpty
    · rw [if_pos he, List.isEmpty_iff.mp he]
      rfl
    · rw [if_neg he]
      rfl

/-- Deliveries change the lobby and the queues only. -/
theorem foldl_deliver_rest (c : Client) (ds : List Delivery) :
    ds.foldl deliver c = { c with
      lobby := (ds.foldl deliver c).lobby
      topics := (ds.foldl deliver c).topics
      feeds := ds.foldl Feeds.deliver c.feeds } := by
  induction ds generalizing c with
  | nil => rfl
  | cons d ds ih =>
    rw [List.foldl_cons, ih]
    cases d <;> rfl

theorem foldl_deliver_closed (c : Client) (ds : List Delivery) :
    (ds.foldl deliver c).topics.closed = c.topics.closed := by
  induction ds generalizing c with
  | nil => rfl
  | cons d ds ih =>
    rw [List.foldl_cons, ih]
    cases d <;> rfl

theorem foldl_deliver_feeds {c : Client} (hopen : c.topics.closed = false) (batch : List Event) :
    (c.topics.deliveries batch).foldl Feeds.deliver c.feeds = c.feeds.hear batch := by
  rw [Multiplexer.deliveries, hopen, if_neg Bool.false_ne_true, List.foldl_append, ← Feeds.foldl_deliver]
  by_cases he : (sessionEvents batch).isEmpty
  · rw [if_pos he]
    rfl
  · rw [if_neg he]
    rfl

/-- The deliveries of a batch bring the session up to date and leave the batch in the client's own queues. -/
theorem Attentive.foldl_deliver {c : Client} (h : c.Attentive) (batch : List Event) :
    (c.topics.deliveries batch).foldl deliver c = { c with
      lobby := c.lobby.after (c.lobby.reconcileAll (sessionEvents batch))
      topics := ((c.topics.deliveries batch).foldl deliver c).topics
      feeds := Feeds.fresh.hear batch } := by
  have hlobby : ((c.topics.deliveries batch).foldl deliver c).lobby =
      c.lobby.after (c.lobby.reconcileAll (sessionEvents batch)) := by
    rw [foldl_deliver_lobby, h.streams, if_neg Bool.false_ne_true]
  have hfeeds : (c.topics.deliveries batch).foldl Feeds.deliver c.feeds = Feeds.fresh.hear batch := by
    rw [foldl_deliver_feeds h.streams, h.feeds]
  exact hfeeds ▸ hlobby ▸ foldl_deliver_rest c _

/-- A batch brings the session up to date and reaches the subscribers, and it may end the heartbeats. What the
client itself keeps of it comes last. -/
theorem takeBatch_eq (c : Client) (batch : List Event) (h : c.Attentive) :
    let l := c.lobby.after (c.lobby.reconcileAll (sessionEvents batch))
    c.takeBatch batch = ({ c with
      lobby := l
      topics := ((c.topics.deliveries batch).foldl deliver c).topics
      pulse := if sessionEvents batch ≠ [] ∧ l.lifecycle = .closed then none else c.pulse } : Client).keep batch := by
  intro l
  let d := (c.topics.deliveries batch).foldl deliver c
  have hd : d = { c with lobby := l, topics := d.topics, feeds := Feeds.fresh.hear batch } := h.foldl_deliver batch
  have hsession : decide (0 < (c.topics.counts batch).session) = !(sessionEvents batch).isEmpty := by
    rw [Bool.eq_iff_iff, decide_eq_true_iff, Multiplexer.session_counts_pos_iff h.streams]
    simp
  have hends : (!(sessionEvents batch).isEmpty && decide (d.lobby.lifecycle = .closed)) = true ↔
      sessionEvents batch ≠ [] ∧ l.lifecycle = .closed := by
    rw [show d.lobby = l from congrArg Client.lobby hd]
    simp
  have hstop : (if !(sessionEvents batch).isEmpty && decide (d.lobby.lifecycle = .closed) then d.stopPulse else d) =
      { c with
        lobby := l
        topics := d.topics
        feeds := Feeds.fresh.hear batch
        pulse := if sessionEvents batch ≠ [] ∧ l.lifecycle = .closed then none else c.pulse } := by
    by_cases hover : sessionEvents batch ≠ [] ∧ l.lifecycle = .closed
    · rw [if_pos (hends.mpr hover), if_pos hover, stopPulse, hd]
    · rw [if_neg fun hc => hover (hends.mp hc), if_neg hover]
      exact hd
  rw [takeBatch]
  simp only [hsession]
  rw [hstop, h.feeds]
  exact drain_eq_keep rfl h.room

end Client

end PaddleLink
