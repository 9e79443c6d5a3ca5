import PaddleLink.Wire.Event

/-!
Handing out events by topic. Every subscriber has a queue of its own, in which the events of its topic
arrive batch by batch; what one subscriber does is of no concern to another.
-/

namespace PaddleLink

structure Subscription (α : Type) where
  queue : List (List α)
  attached : Bool
  held : Bool
  deriving DecidableEq, Repr

namespace Subscription

variable {α : Type}

def fresh : Subscription α :=
  ⟨[], true, true⟩

/-- Puts in a batch that is not empty. A queue that nobody reads is given up. -/
def offer (s : Subscription α) (batch : List α) : Subscription α :=
  if batch.isEmpty ∨ ¬ s.attached then s
  else if s.held then { s with queue := s.queue ++ [batch] }
  else { s with attached := false }

def detach (s : Subscription α) : Subscription α :=
  { s with attached := false }

def clear (s : Subscription α) : Subscription α :=
  { s with queue := [] }

def drop (s : Subscription α) : Subscription α :=
  { s with queue := [], held := false }

end Subscription

structure SubStream (α : Type) where
  subscriptions : List (Subscription α)
  deriving DecidableEq, Repr

namespace SubStream

variable {α : Type}

def empty : SubStream α :=
  ⟨[]⟩

def subscribe (s : SubStream α) : SubStream α :=
  ⟨s.subscriptions ++ [.fresh]⟩

def count (s : SubStream α) : Nat :=
  s.subscriptions.countP (·.attached)

def publish (s : SubStream α) (batch : List α) : SubStream α :=
  ⟨s.subscriptions.map (·.offer batch)⟩

def reach (s : SubStream α) (batch : List α) : Nat :=
  if batch.isEmpty then 0 else (s.publish batch).count

def close (s : SubStream α) : SubStream α :=
  ⟨s.subscriptions.map Subscription.detach⟩

def modify (s : SubStream α) (i : Nat) (f : Subscription α → Subscription α) : SubStream α :=
  ⟨s.subscriptions.modify i f⟩

end SubStream

structure Counts where
  session : Nat
  input : Nat
  move : Nat
  tick : Nat
  status : Nat
  deriving DecidableEq, Repr

def Counts.zero : Counts :=
  ⟨0, 0, 0, 0, 0⟩

def Counts.total (c : Counts) : Nat :=
  c.session + c.input + c.move + c.tick + c.status

def eventsOf (topic : Topic) (batch : List Event) : List Event :=
  batch.filter fun e => e.topic = topic

def sessionEvents (batch : List Event) : List SessionEvent :=
  batch.filterMap fun
    | .session e => some e
    | _ => none

def inputEvents (batch : List Event) : List InputEvent :=
  batch.filterMap fun
    | .input e => some e
    | _ => none

def tickEvents (batch : List Event) : List Snapshot :=
  batch.filterMap fun
    | .tick s => some s
    | _ => none

def statusEvents (batch : List Event) : List StatusEvent :=
  batch.filterMap fun
    | .status e => some e
    | _ => none

def Counts.ofBatch (batch : List Event) : Counts where
  session := (eventsOf .session batch).length
  input := (eventsOf .input batch).length
  move := (eventsOf .move batch).length
  tick := (eventsOf .tick batch).length
  status := (eventsOf .status batch).length

inductive Delivery where
  | reconcile (events : List SessionEvent)
  | publish (topic : Topic) (events : List Event)

/-- The subscribers of all topics, in the order in which they came. -/
structure Multiplexer where
  subscriptions : List (Topic × Subscription Event)
  closed : Bool

namespace Multiplexer

def empty : Multiplexer :=
  ⟨[], false⟩

def subscribe (m : Multiplexer) (topic : Topic) : Multiplexer :=
  { m with subscriptions := m.subscriptions ++ [(topic, .fresh)] }

def counts (m : Multiplexer) (batch : List Event) : Counts :=
  if m.closed then .zero else .ofBatch batch

/-- What a batch leads to, in this order: its session events are reconciled at once if there are any, and
then each topic is published. Nothing follows after the end. -/
def deliveries (m : Multiplexer) (batch : List Event) : List Delivery :=
  if m.closed then []
  else
    (if (sessionEvents batch).isEmpty then [] else [.reconcile (sessionEvents batch)]) ++
      Topic.all.map fun t => .publish t (eventsOf t batch)

def deliver (m : Multiplexer) : Delivery → Multiplexer
  | .reconcile _ => m
  | .publish topic events =>
    { m with subscriptions := m.subscriptions.map fun (t, s) => (t, if t = topic then s.offer events else s) }

def dispatch (m : Multiplexer) (batch : List Event) : Multiplexer :=
  (m.deliveries batch).foldl deliver m

def close (m : Multiplexer) : Multiplexer :=
  ⟨m.subscriptions.map fun (t, s) => (t, s.detach), true⟩

/-- Ends all streams and begins anew; the old queues can still be read. -/
def renew (m : Multiplexer) : Multiplexer :=
  { m.close with closed := false }

def modify (m : Multiplexer) (i : Nat) (f : Subscription Event → Subscription Event) : Multiplexer :=
  { m with subscriptions := m.subscriptions.modify i fun (t, s) => (t, f s) }

end Multiplexer

end PaddleLink
