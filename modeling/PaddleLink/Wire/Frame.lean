import PaddleLink.Wire.Schema

/-!
Frames: the texts that go over the wire. A frame of events is an array of envelopes, each with a topic
and the text of an event; a frame of a message holds its kind and the text of its payload. So each frame
is a JSON document around other ones.
-/

namespace PaddleLink

open Json

structure Envelope where
  topic : String
  event : String
  deriving DecidableEq, Repr

def Envelope.decode : Decoder Envelope :=
  (Envelope.mk <$> field "topic" text <*> field "event" text : Record Envelope).decode "RawEnvelope"

def Envelope.toJson (e : Envelope) : Value :=
  .object [("topic", .string e.topic), ("event", .string e.event)]

structure Parcel where
  kind : MessageKind
  payload : String
  deriving DecidableEq, Repr

def Parcel.decode : Decoder Parcel :=
  (Parcel.mk <$> field "msg_type" MessageKind.decode <*> field "payload" text
    : Record Parcel).decode "WireMessage"

def Parcel.toJson (p : Parcel) : Value :=
  .object [("msg_type", .string p.kind.name), ("payload", .string p.payload)]

inductive FrameError where
  | frame (p : Problem)
  | event (topic : Topic) (p : Problem)
  | invalid (topic : Topic) (v : Violation)
  | payload (kind : MessageKind) (p : Problem)

def FrameError.message : FrameError → String
  | .frame p => "malformed frame: " ++ p.message
  | .event topic p => "malformed " ++ topic.name ++ " event: " ++ p.message
  | .invalid topic v => "invalid " ++ topic.name ++ " event: " ++ v.message
  | .payload kind p => "malformed " ++ kind.name ++ " payload: " ++ p.message

def Envelope.unseal (e : Envelope) : Except FrameError (Option Event) :=
  match Topic.ofName? e.topic with
  | none => .ok none
  | some topic =>
    match (Event.decode topic).run e.event with
    | .error p => .error (.event topic p)
    | .ok event =>
      match event.violation? with
      | some v => .error (.invalid topic v)
      | none => .ok (some event)

def Envelope.event? (e : Envelope) : Option Event :=
  match e.unseal with
  | .ok event => event
  | .error _ => none

/-- Reads the events of a frame in their order. An envelope without a usable event is passed over. -/
def readFrame (s : String) : Except FrameError (List Event) :=
  match (list Envelope.decode).run s with
  | .ok envelopes => .ok (envelopes.filterMap Envelope.event?)
  | .error p => .error (.frame p)

def Event.seal (e : Event) : Envelope :=
  ⟨e.topic.name, e.toJson.toText⟩

def writeFrame (events : List Event) : String :=
  (Value.array (events.map fun e => e.seal.toJson)).toText

def readMessage (s : String) : Except FrameError Message :=
  match Parcel.decode.run s with
  | .error p => .error (.frame p)
  | .ok parcel =>
    match (Message.decode parcel.kind).run parcel.payload with
    | .ok m => .ok m
    | .error p => .error (.payload parcel.kind p)

def writeMessage (m : Message) : String :=
  (Parcel.toJson ⟨m.kind, m.toJson.toText⟩).toText

end PaddleLink
