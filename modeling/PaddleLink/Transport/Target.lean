import PaddleLink.Game.Session
import PaddleLink.Url.Parser

namespace PaddleLink

inductive TransportError where
  | timeout (attempts : Nat)
  | handshake (reason : String)
  | handshakeDied
  | webSocket (reason : String)
  | invalidBase (base : String)
  | solo
  | closed
  deriving DecidableEq, Repr

def TransportError.message : TransportError → String
  | .timeout attempts => "connection not ready after " ++ toString attempts ++ " attempts"
  | .handshake reason => "handshake failed: " ++ reason
  | .handshakeDied => "handshake failed"
  | .webSocket reason => "websocket error: " ++ reason
  | .invalidBase base => "invalid websocket base url: " ++ base
  | .solo => "local sessions have no transport"
  | .closed => "channel closed"

structure Target where
  session : SessionId
  actor : ActorId
  role : Role
  deriving DecidableEq, Repr

/-- The URL of the channel below a base: its query names the session, the actor and the role. -/
def Target.url (t : Target) (base : Url) : Except TransportError Url :=
  match t.role.connectionType with
  | none => .error .solo
  | some connectionType =>
    match base.push? ['w', 's'] with
    | none => .error (.invalidBase base.toText)
    | some url => .ok <| url.withForm
        [("session_id", t.session.text), ("actor_id", t.actor.text), ("connection_type", connectionType)]

end PaddleLink
