import PaddleLink.Json.Record
import PaddleLink.Json.Value
import PaddleLink.Wire.Event

namespace PaddleLink

open Json

def ActorId.decode : Decoder ActorId := fun t => (Json.text t).map ActorId.mk

def ActorId.toJson (a : ActorId) : Value :=
  .string a.text

def SessionId.decode : Decoder SessionId := fun t => (Json.text t).map SessionId.mk

def SessionId.toJson (s : SessionId) : Value :=
  .string s.text

def Slot.decode : Decoder Slot :=
  refine uint8 fun n =>
    match Slot.ofNumber? n with
    | some s => .ok s
    | none => .error (Slot.refusal n)

def Slot.toJson (s : Slot) : Value :=
  .integer s.number.toNat

def Direction.name : Direction → String
  | .up => "UP"
  | .down => "DOWN"

def Direction.decode : Decoder Direction :=
  oneOf [("UP", .up), ("DOWN", .down)]

def SessionState.decode : Decoder SessionState :=
  oneOf [("PENDING", .pending), ("RUNNING", .running), ("CLOSED", .closed)]

def MessageKind.decode : Decoder MessageKind :=
  oneOf [("SessionSnapshot", .snapshot), ("HeartBeat", .heartbeat)]

def Actor.record : Record Actor :=
  Actor.mk <$> field "id" ActorId.decode

def Actor.decode : Decoder Actor :=
  Actor.record.decode "Actor"

def Actor.toJson (a : Actor) : Value :=
  .object [("id", a.id.toJson)]

def Player.record : Record Player :=
  Player.mk <$> field "id" ActorId.decode <*> field "slot" Slot.decode

def Player.decode : Decoder Player :=
  Player.record.decode "Player"

def Player.toJson (p : Player) : Value :=
  .object [("id", p.id.toJson), ("slot", p.slot.toJson)]

def Input.record : Record Input :=
  Input.mk <$> field "direction" Direction.decode <*> field "object_id" uint16
    <*> field "slot" Slot.decode

def Input.decode : Decoder Input :=
  Input.record.decode "Input"

def Input.toJson (i : Input) : Value :=
  .object [("direction", .string i.direction.name), ("object_id", .integer i.object.toNat),
    ("slot", i.slot.toJson)]

def GameObject.record : Record GameObject :=
  GameObject.mk <$> field "id" uint16 <*> field "x" float <*> field "y" float
    <*> field "orientation_x" float <*> field "orientation_y" float
    <*> field "vel_x" float <*> field "vel_y" float
    <*> field "shape_param_1" uint16 <*> field "shape_param_2" uint16

def GameObject.decode : Decoder GameObject :=
  GameObject.record.decode "GameObject"

def GameObject.members (o : GameObject) : List (String × Value) :=
  [("id", .integer o.id.toNat), ("x", .ofFloat o.x), ("y", .ofFloat o.y),
    ("orientation_x", .ofFloat o.orientationX), ("orientation_y", .ofFloat o.orientationY),
    ("vel_x", .ofFloat o.velX), ("vel_y", .ofFloat o.velY),
    ("shape_param_1", .integer o.shapeParam1.toNat), ("shape_param_2", .integer o.shapeParam2.toNat)]

def GameObject.toJson (o : GameObject) : Value :=
  .object o.members

def Score.decode : Decoder Score :=
  (Score.mk <$> field "player_1" uint32 <*> field "player_2" uint32 : Record Score).decode "Score"

def Score.toJson (s : Score) : Value :=
  .object [("player_1", .integer s.player1.toNat), ("player_2", .integer s.player2.toNat)]

def GameState.decode : Decoder GameState :=
  (GameState.mk <$> field "score" Score.decode : Record GameState).decode "GameState"

def GameState.toJson (s : GameState) : Value :=
  .object [("score", s.score.toJson)]

def SessionReport.record : Record SessionReport :=
  SessionReport.mk <$> field "session_id" SessionId.decode <*> field "state" SessionState.decode
    <*> fieldOr "players" [] (list Player.decode)

def SessionReport.decode : Decoder SessionReport :=
  SessionReport.record.decode "SessionPayload"

def SessionReport.toJson (r : SessionReport) : Value :=
  .object [("session_id", r.id.toJson), ("state", .string r.state.name),
    ("players", .array (r.players.map Player.toJson))]

def SessionEvent.record : Record SessionEvent :=
  SessionEvent.mk <$> field "actor" Actor.decode <*> field "event_type" text
    <*> fieldOr "reason" "" text <*> field "session" SessionReport.decode

def SessionEvent.decode : Decoder SessionEvent :=
  SessionEvent.record.decode "SessionEvent"

def SessionEvent.toJson (e : SessionEvent) : Value :=
  .object [("actor", e.actor.toJson), ("event_type", .string e.kind), ("reason", .string e.reason),
    ("session", e.session.toJson)]

def memberIfSome {α : Type} (name : String) (f : α → Value) : Option α → List (String × Value)
  | none => []
  | some a => [(name, f a)]

def InputEvent.record : Record InputEvent :=
  InputEvent.mk <$> field "session_id" SessionId.decode <*> fieldOr "inputs" [] (list Input.decode)
    <*> field "player_id" ActorId.decode <*> fieldOr "player_slot" none (optional Slot.decode)
    <*> field "ts" uint64

def InputEvent.decode : Decoder InputEvent :=
  InputEvent.record.decode "InputEvent"

def InputEvent.toJson (e : InputEvent) : Value :=
  .object ([("session_id", e.session.toJson), ("inputs", .array (e.inputs.map Input.toJson)),
    ("player_id", e.player.toJson)] ++ memberIfSome "player_slot" Slot.toJson e.slot
    ++ [("ts", .integer e.time.toNat)])

def MoveEvent.record : Record (Option SessionId × UInt64) :=
  Prod.mk <$> fieldOr "session_id" none (optional SessionId.decode) <*> fieldOr "ts" 0 uint64

/-- Checks the members of a move event in reading order. Those of its object are only kept at first, and
may nest `levels` deep. -/
def checkMove (levels : Nat) (seen : List String) : List (Name × Tree) → Except Problem Unit
  | [] => .ok ()
  | (name, t) :: rest => do
    let name ← lexeme name
    match MoveEvent.record.fields.find? fun f => f.name == name with
    | some f =>
      if seen.contains name then throw (.duplicateField name)
      f.check t
      checkMove levels (name :: seen) rest
    | none =>
      noFault (t.keepFault levels)
      checkMove levels seen rest

def keptLevels : Nat := 126

/-- Reads a move event. It has to be an object, since it holds the fields of its object among its own. -/
def MoveEvent.decode : Decoder MoveEvent
  | .object members ending => do
    checkMove keptLevels [] members
    noFault ending.readFault
    let (session, time) ← MoveEvent.record.build (member? members)
    checkMembers GameObject.record.fields [] members
    let object ← GameObject.record.build (member? members)
    return ⟨session, time, object⟩
  | t => .error (t.mismatch "struct MoveEvent")

def MoveEvent.toJson (e : MoveEvent) : Value :=
  .object (memberIfSome "session_id" SessionId.toJson e.session
    ++ [("ts", .integer e.time.toNat)] ++ e.object.members)

def Snapshot.record : Record Snapshot :=
  Snapshot.mk <$> field "session_id" SessionId.decode <*> fieldOr "inputs" [] (list Input.decode)
    <*> fieldOr "objects" none (optional (list GameObject.decode))
    <*> field "player_id" ActorId.decode <*> field "ts" uint64

def Snapshot.decode : Decoder Snapshot :=
  Snapshot.record.decode "SessionSnapshot"

def Snapshot.toJson (s : Snapshot) : Value :=
  .object ([("session_id", s.session.toJson), ("inputs", .array (s.inputs.map Input.toJson))]
    ++ memberIfSome "objects" (fun os => .array (os.map GameObject.toJson)) s.objects
    ++ [("player_id", s.player.toJson), ("ts", .integer s.time.toNat)])

def StatusEvent.record : Record StatusEvent :=
  StatusEvent.mk <$> field "session_id" SessionId.decode <*> field "state" GameState.decode

def StatusEvent.decode : Decoder StatusEvent :=
  StatusEvent.record.decode "StatusEvent"

def StatusEvent.toJson (e : StatusEvent) : Value :=
  .object [("session_id", e.session.toJson), ("state", e.state.toJson)]

def Event.decode : Topic → Decoder Event
  | .session => fun t => (SessionEvent.decode t).map Event.session
  | .input => fun t => (InputEvent.decode t).map Event.input
  | .move => fun t => (MoveEvent.decode t).map Event.move
  | .tick => fun t => (Snapshot.decode t).map Event.tick
  | .status => fun t => (StatusEvent.decode t).map Event.status

def Event.toJson : Event → Value
  | .session e => e.toJson
  | .input e => e.toJson
  | .move e => e.toJson
  | .tick s => s.toJson
  | .status e => e.toJson

def Heartbeat.record : Record Heartbeat :=
  Heartbeat.mk <$> field "session_id" SessionId.decode <*> field "player_id" ActorId.decode
    <*> field "ts" uint64

def Heartbeat.decode : Decoder Heartbeat :=
  Heartbeat.record.decode "Heartbeat"

def Heartbeat.toJson (h : Heartbeat) : Value :=
  .object [("session_id", h.session.toJson), ("player_id", h.player.toJson),
    ("ts", .integer h.time.toNat)]

def Message.decode : MessageKind → Decoder Message
  | .snapshot => fun t => (Snapshot.decode t).map Message.snapshot
  | .heartbeat => fun t => (Heartbeat.decode t).map Message.heartbeat

def Message.toJson : Message → Value
  | .snapshot s => s.toJson
  | .heartbeat h => h.toJson

end PaddleLink
