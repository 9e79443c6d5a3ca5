import PaddleLink.Client

/-!
A client over time. What its owner does, what the server does and the turns of the socket loops may follow
one another in any order.
-/

namespace PaddleLink

/-- What `ws://h` is read as. -/
def Url.wsHost : Url :=
  ⟨['w', 's'], some ⟨[], [], .domain ['h'], none⟩, .segments false [[]], none, none⟩

example : (Url.parse "ws://h").toOption = some .wsHost := by
  decide +kernel

/-- Something that happens to a client. Connections and subscribers are counted from the oldest one. -/
inductive Happening : Type 1 where
  | start (endpoint : Endpoint) (server : Server) (s : Start)
  | type (e : KeyEvent)
  | pump
  | frame {σ : Type} (sim : Simulation σ) (scene : σ) (seconds : Float)
  | sendSnapshot (objects : List GameObject)
  | nextTick
  | reset
  | subscribe (topic : Topic)
  | read (i : Nat)
  | unsubscribe (i : Nat)
  | push (i : Nat) (text : String)
  | hangUp (i : Nat)
  | dropServer (i : Nat)
  | fail (i : Nat) (e : TransportError)
  | turn (i : Nat)
  | settle
  | pass (ms : Nat)

structure Timeline where
  client : Client
  now : Nat

def Connection.turn (k : Connection) (now : Nat) : Connection :=
  k.mapLink fun l => (l.step? now).getD l

def Client.onConnection (c : Client) (i : Nat) (f : Connection → Connection) : Client :=
  { c with connections := c.connections.modify i f }

def Client.onTopics (c : Client) (f : Multiplexer → Multiplexer) : Client :=
  { c with topics := f c.topics }

def Started.isNetwork (r : Started) : Bool :=
  match r.result with
  | .ok (.network _) => true
  | _ => false

def Notice.events : Notice → List Event
  | .batch es => es
  | .closed _ => []

namespace Timeline

/-- What a happening makes of the client. Only a start and waiting take time. -/
def step (t : Timeline) : Happening → Timeline
  | .start endpoint server s =>
    let started := t.client.start t.now endpoint server s
    ⟨started.client, t.now + duration started.acts⟩
  | .type e => { t with client := t.client.type e }
  | .pump => { t with client := t.client.pump.1 }
  | .frame sim scene seconds => { t with client := (t.client.frame sim scene t.now seconds).client }
  | .sendSnapshot objects => { t with client := (t.client.sendSnapshot t.now objects).1 }
  | .nextTick => { t with client := t.client.nextTick.1 }
  | .reset => { t with client := t.client.reset }
  | .subscribe topic => { t with client := t.client.onTopics fun m => m.subscribe topic }
  | .read i => { t with client := t.client.onTopics fun m => m.modify i Subscription.clear }
  | .unsubscribe i => { t with client := t.client.onTopics fun m => m.modify i Subscription.drop }
  | .push i text => { t with client := t.client.onConnection i fun k => k.push t.now text }
  | .hangUp i => { t with client := t.client.onConnection i fun k => k.hangUp t.now }
  | .dropServer i => { t with client := t.client.onConnection i fun k => k.dropServer t.now }
  | .fail i e => { t with client := t.client.onConnection i fun k => k.deliver t.now (.failure e) }
  | .turn i => { t with client := t.client.onConnection i fun k => k.turn t.now }
  | .settle => { t with client := t.client.settle t.now }
  | .pass ms => ⟨t.client.pass t.now (t.now + ms), t.now + ms⟩

def run (t : Timeline) (xs : List Happening) : Timeline :=
  xs.foldl step t

def pumped (t : Timeline) : Happening → List Event
  | .pump | .frame .. => t.client.notices.flatMap Notice.events
  | _ => []

def opens (t : Timeline) : Happening → Bool
  | .start endpoint server s => (t.client.start t.now endpoint server s).isNetwork
  | _ => false

end Timeline

def Happening.keyEvent? : Happening → Option KeyEvent
  | .type e => some e
  | _ => none

structure Chronicle where
  timeline : Timeline
  typed : List KeyEvent
  /-- The events taken since the channel of the live session was opened. -/
  heard : List Event

namespace Chronicle

def begin (settings : Settings) (base : Url) : Chronicle :=
  ⟨⟨.fresh settings base, 0⟩, [], []⟩

def client (r : Chronicle) : Client :=
  r.timeline.client

def step (r : Chronicle) (h : Happening) : Chronicle where
  timeline := r.timeline.step h
  typed := r.typed ++ h.keyEvent?.toList
  heard := if r.timeline.opens h then [] else r.heard ++ r.timeline.pumped h

def run (r : Chronicle) (hs : List Happening) : Chronicle :=
  hs.foldl step r

end Chronicle

/-- What a channel goes back to: a request and the answer to it. -/
structure Origin where
  request : Request
  grant : Grant

def Happening.origin? : Happening → Option Origin
  | .start endpoint _ s =>
    match s.request?, endpoint.answer with
    | some request, .ok grant => some ⟨request, grant⟩
    | _, _ => none
  | _ => none

/-- A client over time, and the origins of all its channels, the oldest one first. -/
structure Register where
  timeline : Timeline
  origins : List Origin

namespace Register

def begin (settings : Settings) (base : Url) : Register :=
  ⟨⟨.fresh settings base, 0⟩, []⟩

def client (r : Register) : Client :=
  r.timeline.client

def step (r : Register) (x : Happening) : Register where
  timeline := r.timeline.step x
  origins :=
    if r.client.connections.all.length < (r.timeline.step x).client.connections.all.length then
      r.origins ++ x.origin?.toList
    else r.origins

def run (r : Register) (xs : List Happening) : Register :=
  xs.foldl step r

end Register

end PaddleLink
