import PaddleLink.Game.Player

namespace PaddleLink

structure SessionId where
  text : String
  deriving DecidableEq, Repr

def SessionId.solo : SessionId :=
  ⟨"local"⟩

inductive Role where
  | solo
  /-- Runs the simulation and owns slot 1. -/
  | host
  /-- Owns slot 2. -/
  | peer
  | observer
  deriving DecidableEq, Repr

def Role.name : Role → String
  | .solo => "LOCAL"
  | .host => "HOST"
  | .peer => "PEER"
  | .observer => "OBSERVER"

def Role.all : List Role :=
  [.solo, .host, .peer, .observer]

def Role.ofName? (name : String) : Option Role :=
  Role.all.find? fun r => r.name == name

/-- How a role is announced to the server; a solo client never connects. -/
def Role.connectionType : Role → Option String
  | .solo => none
  | .host => some "host"
  | .peer => some "peer"
  | .observer => some "observer"

def Role.keyboardSlot : Role → Option Slot
  | .host => some .one
  | .peer => some .two
  | .solo | .observer => none

inductive SessionState where
  | pending
  | running
  | closed
  deriving DecidableEq, Repr

def SessionState.name : SessionState → String
  | .pending => "PENDING"
  | .running => "RUNNING"
  | .closed => "CLOSED"

structure NetworkSession where
  id : SessionId
  role : Role
  state : SessionState
  players : List Player
  me : Actor
  deriving DecidableEq, Repr

def NetworkSession.playerIn (s : NetworkSession) (slot : Slot) : Option Player :=
  s.players.find? fun p => p.slot = slot

inductive Session where
  | solo
  | network (s : NetworkSession)
  deriving DecidableEq, Repr

def Session.id : Session → SessionId
  | .solo => .solo
  | .network s => s.id

def Session.role : Session → Role
  | .solo => .solo
  | .network s => s.role

def Session.state : Session → SessionState
  | .solo => .running
  | .network s => s.state

def Session.network? : Session → Option NetworkSession
  | .solo => none
  | .network s => some s

end PaddleLink
