import PaddleLink.Lobby
import PaddleLink.Paddles
import PaddleLink.Presence
import PaddleLink.Snapshots
import PaddleLink.Topics
import PaddleLink.Transport.Connections

/-!
A client: its session, its channel, the heartbeats on it, the keyboard and what the server has told. Times
are in milliseconds of one clock, which also stamps what is sent.
-/

namespace PaddleLink

structure Feeds where
  input : Subscription InputEvent
  ticks : Subscription Snapshot
  status : Subscription StatusEvent

namespace Feeds

def fresh : Feeds :=
  ⟨.fresh, .fresh, .fresh⟩

def deliver (f : Feeds) : Delivery → Feeds
  | .publish .input events => { f with input := f.input.offer (inputEvents events) }
  | .publish .tick events => { f with ticks := f.ticks.offer (tickEvents events) }
  | .publish .status events => { f with status := f.status.offer (statusEvents events) }
  | .publish .session _ | .publish .move _ | .reconcile _ => f

def clear (f : Feeds) : Feeds :=
  ⟨f.input.clear, f.ticks.clear, f.status.clear⟩

end Feeds

structure Client where
  settings : Settings
  lobby : Lobby
  connections : Connections
  /-- The number of the connection whose notices are taken, if any are. -/
  inbound : Option Nat
  topics : Multiplexer
  feeds : Feeds
  composer : Composer
  keyboard : Keyboard
  pulse : Option Pulse
  lastSnapshot : Option Nat
  score : Option StatusEvent
  ticks : List Snapshot

structure Started where
  result : Except SessionError Session
  acts : List Act
  client : Client

def secondsOf (ms : Nat) : Float :=
  (ms / 1000).toFloat + (ms % 1000 * 1000000).toFloat / 1000000000

structure Frame (σ : Type) where
  inputs : List Input
  scene : σ
  client : Client

namespace Client

def tickLimit : Nat := 64

def fresh (settings : Settings) (wsBase : Url) : Client where
  settings := settings
  lobby := .initial
  connections := .initial wsBase settings.retry
  inbound := none
  topics := .empty
  feeds := .fresh
  composer := .initial
  keyboard := .empty
  pulse := none
  lastSnapshot := none
  score := none
  ticks := []

def ofSettings (settings : Settings) : Except SessionError Client :=
  match settings.wsUrl with
  | .ok base => .ok (fresh settings.validated base)
  | .error e => .error (.invalidBase (settings.wsBase ++ ": " ++ e.message))

def perform (c : Client) (acts : List Act) : Client :=
  { c with lobby := c.lobby.after acts }

def refresh (c : Client) : Client :=
  { c with composer := c.composer.recompute c.lobby.session c.keyboard }

def me (c : Client) : Option ActorId :=
  (c.lobby.session.bind Session.network?).map fun s => s.me.id

def settle (c : Client) (now : Nat) : Client :=
  { c with connections := c.connections.settle now }

def pass (c : Client) (now until_ : Nat) : Client :=
  let c := c.settle now
  match c.pulse, c.connections.held with
  | some pulse, some connection =>
    let (pulse, link) := pulse.run c.lastSnapshot connection.link now until_
    { c with
      pulse := some pulse
      connections := { c.connections with held := some { connection with link := link } } }
  | _, _ => c

def passDuring (c : Client) (now : Nat) (acts : List Act) : Client :=
  if duration acts = 0 then c else c.pass now (now + duration acts)

/-- Opens the channel of a session. Without it the session is dropped again. -/
def openChannel (c : Client) (now : Nat) (server : Server) (session : NetworkSession) : Started :=
  let attempt := c.connections.connect now server ⟨session.id, session.me.id, session.role⟩
  let c := { c with connections := attempt.connections }
  let waited := Act.wait attempt.elapsed
  match attempt.result with
  | .ok connected =>
    let inbound := match connected with
      | .opened => some c.connections.past.length
      | .alreadyOpen => c.inbound
    -- no snapshot of an earlier session stands for a heartbeat of this one
    let pulse := Pulse.start session.id session.me.id c.settings.heartbeatInterval (now + attempt.elapsed)
    ⟨.ok (.network session), [waited], { c with inbound, pulse := some pulse, lastSnapshot := none }.refresh⟩
  | .error e =>
    let acts := waited :: Lobby.abort (.transport e)
    ⟨.error (.transport e), acts, c.perform acts⟩

def start (c : Client) (now : Nat) (endpoint : Endpoint) (server : Server) (s : Start) : Started :=
  let course := c.lobby.start c.settings.setupDelay endpoint s
  let c := (c.passDuring now course.acts).perform course.acts
  match course.result with
  | .error e => ⟨.error e, course.acts, c⟩
  | .ok .solo => ⟨.ok .solo, course.acts, c.refresh⟩
  | .ok (.network session) =>
    let opened := c.openChannel (now + duration course.acts) server session
    { opened with acts := course.acts ++ opened.acts }

def addTicks (ticks new : List Snapshot) : List Snapshot :=
  (ticks ++ new).drop ((ticks ++ new).length - tickLimit)

/-- Reads the client's own queues, after the session has been brought up to date. -/
def drain (c : Client) (sessionChanged : Bool) : Client :=
  let (composer, heard) := c.composer.recordAll c.me c.feeds.input.queue
  let c := { c with
    composer := composer
    ticks := c.feeds.ticks.queue.foldl addTicks c.ticks
    score := c.feeds.status.queue.foldl (fun score new => new.getLast?.or score) c.score
    feeds := c.feeds.clear }
  -- session events may have put other players into the slots
  if sessionChanged || heard then c.refresh else c

def stopPulse (c : Client) : Client :=
  { c with pulse := none }

def deliver (c : Client) : Delivery → Client
  | .reconcile events => c.perform (c.lobby.reconcileAll events)
  | .publish topic events => { c with
    topics := c.topics.deliver (.publish topic events)
    feeds := c.feeds.deliver (.publish topic events) }

/-- Takes a batch: the session first, then the subscribers, then the client itself. The heartbeats end
with the session. -/
def takeBatch (c : Client) (batch : List Event) : Client :=
  let deliveries := c.topics.deliveries batch
  let concernsSession := 0 < (c.topics.counts batch).session
  let c := deliveries.foldl deliver c
  let c := if concernsSession && c.lobby.lifecycle = .closed then c.stopPulse else c
  c.drain concernsSession

def takeLoss (c : Client) (reason : Option String) : Client :=
  let c := { c.stopPulse with connections := c.connections.close, inbound := none }
  let c := c.perform (Lobby.connectionLost reason)
  { c with topics := c.topics.renew, feeds := .fresh }

def take (c : Client) : Notice → Client
  | .batch events => c.takeBatch events
  | .closed reason => c.takeLoss reason

def handedOut (c : Client) : Notice → Nat
  | .batch events => (c.topics.counts events).total
  | .closed _ => 0

def listened? (c : Client) : Option Connection :=
  c.inbound.bind fun i => c.connections.all[i]?

def notices (c : Client) : List Notice :=
  match c.listened? with
  | some connection => Notice.upToLoss connection.link.notices
  | none => []

def clearNotices (c : Client) : Client :=
  match c.inbound with
  | some i => { c with connections := c.connections.modify i fun k => k.mapLink Link.clearNotices }
  | none => c

def takeNotices (c : Client) : Client × Nat :=
  c.notices.foldl (fun (c, count) n => (c.take n, count + c.handedOut n)) (c.clearNotices, 0)

def isToldAll (c : Client) : Bool :=
  match c.listened? with
  | some connection => connection.link.isFinished && connection.link.notices.isEmpty
  | none => false

/-- Takes note of everything that the channel has told, and counts the events. A channel that has ended
without telling of its loss is not listened to any more. -/
def pump (c : Client) : Client × Nat :=
  let (c, count) := c.takeNotices
  (if c.isToldAll then { c with inbound := none } else c, count)

def nextTick (c : Client) : Client × Option Snapshot :=
  ({ c with ticks := [] }, c.ticks.getLast?)

def type (c : Client) (e : KeyEvent) : Client :=
  if c.keyboard.isChangedBy e then { c with keyboard := c.keyboard.after e }.refresh else c

def snapshotNow? (c : Client) (now : Nat) (objects : List GameObject) : Option Snapshot :=
  if c.lobby.lifecycle = .running then
    c.lobby.session.bind fun s => snapshot? s c.keyboard objects (UInt64.ofNat now)
  else none

def sendSnapshot (c : Client) (now : Nat) (objects : List GameObject) : Client × Bool :=
  match c.snapshotNow? now objects with
  | none => (c, false)
  | some s =>
    if c.connections.isOpen then
      ({ c with
        connections := c.connections.mapHeld fun l => l.send (writeMessage (.snapshot s))
        lastSnapshot := some now }, true)
    else (c, false)

def frame {σ : Type} (c : Client) (sim : Simulation σ) (scene : σ) (now : Nat) (seconds : Float) :
    Frame σ :=
  let c := c.pump.1
  let inputs := c.composer.current
  let scene := sim.step scene inputs seconds
  ⟨inputs, scene, (c.sendSnapshot now (sim.objects scene)).1⟩

/-- Ends everything: the heartbeats, the channel, the subscribers and the session. Only the keys stay
held. -/
def reset (c : Client) : Client :=
  { c.perform Lobby.reset with
    connections := c.connections.close
    inbound := none
    topics := c.topics.renew
    feeds := .fresh
    composer := c.composer.reset
    pulse := none
    lastSnapshot := none
    score := none
    ticks := [] }

end Client

end PaddleLink
