import PaddleLink.Game.Scene
import PaddleLink.Game.Session

namespace PaddleLink

inductive Topic where
  | session
  | input
  | move
  | tick
  | status
  deriving DecidableEq, Repr

def Topic.all : List Topic :=
  [.session, .input, .move, .tick, .status]

def Topic.name : Topic → String
  | .session => "session"
  | .input => "input"
  | .move => "move"
  | .tick => "tick"
  | .status => "status"

def Topic.ofName? (name : String) : Option Topic :=
  Topic.all.find? fun t => t.name == name

/-- A session as the server describes it; it names no role and no client. -/
structure SessionReport where
  id : SessionId
  state : SessionState
  players : List Player
  deriving DecidableEq, Repr

structure SessionEvent where
  actor : Actor
  kind : String
  reason : String
  session : SessionReport
  deriving DecidableEq, Repr

structure InputEvent where
  session : SessionId
  inputs : List Input
  player : ActorId
  slot : Option Slot
  time : UInt64
  deriving DecidableEq, Repr

structure MoveEvent where
  session : Option SessionId
  time : UInt64
  object : GameObject

/-- What a player holds and, from the host, where the objects are. -/
structure Snapshot where
  session : SessionId
  inputs : List Input
  objects : Option (List GameObject)
  player : ActorId
  time : UInt64

structure StatusEvent where
  session : SessionId
  state : GameState
  deriving DecidableEq, Repr

inductive Event where
  | session (e : SessionEvent)
  | input (e : InputEvent)
  | move (e : MoveEvent)
  | tick (s : Snapshot)
  | status (e : StatusEvent)

def Event.topic : Event → Topic
  | .session _ => .session
  | .input _ => .input
  | .move _ => .move
  | .tick _ => .tick
  | .status _ => .status

structure Heartbeat where
  session : SessionId
  player : ActorId
  time : UInt64
  deriving DecidableEq, Repr

inductive Message where
  | snapshot (s : Snapshot)
  | heartbeat (h : Heartbeat)

inductive MessageKind where
  | snapshot
  | heartbeat
  deriving DecidableEq, Repr

def MessageKind.name : MessageKind → String
  | .snapshot => "SessionSnapshot"
  | .heartbeat => "HeartBeat"

def Message.kind : Message → MessageKind
  | .snapshot _ => .snapshot
  | .heartbeat _ => .heartbeat

def maxPlayers : Nat := 2

def maxInputs : Nat := 4

def maxObjects : Nat := 64

inductive Violation where
  | rosterSize
  | sharedSlot
  | inputCount
  | snapshotInputCount
  | objectCount
  deriving DecidableEq, Repr

def Violation.message : Violation → String
  | .rosterSize => "Roster has more than two players"
  | .sharedSlot => "Two players share one slot"
  | .inputCount => "Too many inputs in one event"
  | .snapshotInputCount => "Too many inputs in snapshot"
  | .objectCount => "Too many objects in snapshot"

def rosterViolation? (players : List Player) : Option Violation :=
  if players.length > maxPlayers then some .rosterSize
  else match players with
    | [a, b] => if a.slot = b.slot then some .sharedSlot else none
    | _ => none

def Snapshot.violation? (s : Snapshot) : Option Violation :=
  if s.inputs.length > maxInputs then some .snapshotInputCount
  else if (s.objects.getD []).length > maxObjects then some .objectCount
  else none

def Event.violation? : Event → Option Violation
  | .session e => rosterViolation? e.session.players
  | .input e => if e.inputs.length > maxInputs then some .inputCount else none
  | .tick s => s.violation?
  | .move _ => none
  | .status _ => none

end PaddleLink
