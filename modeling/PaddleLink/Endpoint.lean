import PaddleLink.Game.Start
import PaddleLink.Transport.Target
import PaddleLink.Wire.Event

namespace PaddleLink

inductive Request where
  | create
  | join (id : SessionId)
  | watch (id : SessionId)
  deriving DecidableEq, Repr

def Start.request? : Start → Option Request
  | .solo => none
  | .host => some .create
  | .join id => some (.join id)
  | .watch id => some (.watch id)

def Request.role : Request → Role
  | .create => .host
  | .join _ => .peer
  | .watch _ => .observer

def Request.segment : Request → List Char
  | .create => "create_session".toList
  | .join _ => "join_session".toList
  | .watch _ => "watch_session".toList

/-- What the server grants: who this client is, and the session. -/
structure Grant where
  actor : Actor
  session : SessionReport
  deriving DecidableEq, Repr

def Grant.sessionAs (g : Grant) (role : Role) : NetworkSession :=
  ⟨g.session.id, role, g.session.state, g.session.players, g.actor⟩

inductive Lifecycle where
  | uninitialized
  | pending
  | running
  | closed
  deriving DecidableEq, Repr

def Lifecycle.name : Lifecycle → String
  | .uninitialized => "UNINITIALIZED"
  | .pending => "PENDING"
  | .running => "RUNNING"
  | .closed => "CLOSED"

def Lifecycle.describe : Lifecycle → String
  | .uninitialized => "Uninitialized"
  | .pending => "Pending"
  | .running => "Running"
  | .closed => "Closed"

inductive SessionError where
  | refused (status : Nat) (body : String)
  | unsendable (url : Url)
  | unreachable (url : Url)
  | invalidBase (base : String)
  | busy (lifecycle : Lifecycle)
  | transport (e : TransportError)
  deriving DecidableEq, Repr

namespace SessionError

def requestText : SessionError → String
  | .unsendable url => "builder error for url (" ++ url.toText ++ ")"
  | .unreachable url => "error sending request for url (" ++ url.toText ++ ")"
  | _ => ""

def message (e : SessionError) : String :=
  match e with
  | .refused status body => toString status ++ ": " ++ body
  | .unsendable _ | .unreachable _ => "request failed: " ++ e.requestText
  | .invalidBase base => "invalid base url: " ++ base
  | .busy lifecycle => "session busy (" ++ lifecycle.describe ++ "); reset first"
  | .transport e => e.message

def causes (e : SessionError) : List String :=
  match e with
  | .unsendable _ => [e.requestText, "URL scheme is not allowed"]
  | .unreachable _ => [e.requestText]
  | .transport (.webSocket reason) => [reason]
  | _ => []

end SessionError

def Request.url (r : Request) (base : Url) : Except SessionError Url :=
  match base.push? r.segment with
  | none => .error (.invalidBase base.toText)
  | some url =>
    if url.scheme = "http".toList ∨ url.scheme = "https".toList then .ok url
    else .error (.unsendable url.withoutUser)

/-- An endpoint: its answers in turn, the last one again and again, and how long each takes. -/
structure Endpoint where
  answers : List (Except SessionError Grant)
  delay : Nat

namespace Endpoint

def answer (e : Endpoint) : Except SessionError Grant :=
  e.answers.headD (.error (.refused 500 "not configured"))

def next (e : Endpoint) : Endpoint :=
  match e.answers with
  | _ :: a :: answers => { e with answers := a :: answers }
  | _ => e

end Endpoint

end PaddleLink
