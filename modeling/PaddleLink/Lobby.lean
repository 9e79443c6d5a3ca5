import PaddleLink.Endpoint

/-!
The session of a client: how it begins, what the server changes in it and how it ends. Every operation is
described by its course, the list of what it does one after another; the lobby is what has been shown last.
-/

namespace PaddleLink

structure Status where
  loading : Bool
  error : Option String
  deriving DecidableEq, Repr

def Status.idle : Status :=
  ⟨false, none⟩

def Status.busy : Status :=
  ⟨true, none⟩

def Status.failed (error : String) : Status :=
  ⟨false, some error⟩

structure Lobby where
  session : Option Session
  status : Status
  lifecycle : Lifecycle
  deriving DecidableEq, Repr

inductive Act where
  | showSession (s : Option Session)
  | showStatus (s : Status)
  | showLifecycle (l : Lifecycle)
  | ask (r : Request)
  | wait (ms : Nat)
  deriving DecidableEq, Repr

def Act.shows : Act → Bool
  | .showSession _ | .showStatus _ | .showLifecycle _ => true
  | .ask _ | .wait _ => false

structure Course (α : Type) where
  acts : List Act
  result : α

def duration : List Act → Nat
  | [] => 0
  | .wait ms :: acts => ms + duration acts
  | _ :: acts => duration acts

def requests (acts : List Act) : List Request :=
  acts.filterMap fun
    | .ask r => some r
    | _ => none

def Endpoint.after (e : Endpoint) (acts : List Act) : Endpoint :=
  (requests acts).foldl (fun e _ => e.next) e

inductive Stale where
  | noSession
  | solo
  | closed
  | otherSession (event live : SessionId)
  deriving DecidableEq, Repr

def Stale.message : Stale → String
  | .noSession => "no live session"
  | .solo => "live session is local"
  | .closed => "live session is closed"
  | .otherSession event live => "event for session " ++ event.text ++ ", live session is " ++ live.text

/-- The session as an event leaves it. Who this client is, and in which role, stays as it was. -/
def NetworkSession.update (s : NetworkSession) (r : SessionReport) : NetworkSession :=
  { s with state := r.state, players := r.players }

namespace Lobby

def initial : Lobby :=
  ⟨none, .idle, .uninitialized⟩

def act (l : Lobby) : Act → Lobby
  | .showSession s => { l with session := s }
  | .showStatus s => { l with status := s }
  | .showLifecycle c => { l with lifecycle := c }
  | .ask _ => l
  | .wait _ => l

def after (l : Lobby) (acts : List Act) : Lobby :=
  acts.foldl act l

@[simp] theorem after_nil (l : Lobby) : l.after [] = l := rfl

@[simp] theorem after_cons (l : Lobby) (a : Act) (acts : List Act) :
    l.after (a :: acts) = (l.act a).after acts := rfl

@[simp] theorem after_append (l : Lobby) (as bs : List Act) :
    l.after (as ++ bs) = (l.after as).after bs := List.foldl_append

def glimpses (l : Lobby) : List Act → List Lobby
  | [] => []
  | .wait 0 :: acts => l.glimpses acts
  | .wait (_ + 1) :: acts => l :: l.glimpses acts
  | a :: acts => (l.act a).glimpses acts

def changes (last : Option Lobby) : List Lobby → List Lobby
  | [] => []
  | l :: ls => if last = some l then changes last ls else l :: changes (some l) ls

/-- What an observer notes while acts are done: each state that can be seen while time passes and at the
end, once something has been shown, if it is not the one noted last. -/
def observed (l : Lobby) (last : Option Lobby) (acts : List Act) : List Lobby :=
  if acts.any Act.shows then changes last (l.glimpses acts ++ [l.after acts]) else []

def ifIdle {α : Type} (l : Lobby) (c : Course (Except SessionError α)) : Course (Except SessionError α) :=
  if l.lifecycle = .uninitialized then c else ⟨[], .error (.busy l.lifecycle)⟩

def startSolo (l : Lobby) (delay : Nat) : Course (Except SessionError Session) :=
  l.ifIdle
    ⟨[.showStatus .busy, .wait delay, .showSession (some .solo), .showLifecycle .running, .showStatus .idle],
      .ok .solo⟩

def asking (r : Request) (delay : Nat) : List Act :=
  [.showLifecycle .pending, .showStatus .busy, .ask r, .wait delay]

def startNetwork (l : Lobby) (r : Request) (answer : Except SessionError Grant) (delay : Nat) :
    Course (Except SessionError NetworkSession) :=
  l.ifIdle <|
    match answer with
    | .ok grant =>
      ⟨asking r delay ++ [.showSession (some (.network (grant.sessionAs r.role))), .showLifecycle .running,
        .showStatus .idle], .ok (grant.sessionAs r.role)⟩
    | .error e =>
      ⟨asking r delay ++ [.showLifecycle l.lifecycle, .showStatus (.failed e.message)], .error e⟩

def start (l : Lobby) (setupDelay : Nat) (endpoint : Endpoint) (s : Start) :
    Course (Except SessionError Session) :=
  match s.request? with
  | none => l.startSolo setupDelay
  | some r =>
    let c := l.startNetwork r endpoint.answer endpoint.delay
    ⟨c.acts, c.result.map Session.network⟩

/-- The session that an event changes, or why it changes none. -/
def sessionFor (l : Lobby) (e : SessionEvent) : Except Stale NetworkSession :=
  match l.session with
  | none => .error .noSession
  | some .solo => .error .solo
  | some (.network s) =>
    if s.state = .closed then .error .closed
    else if s.id ≠ e.session.id then .error (.otherSession e.session.id s.id)
    else .ok s

def showUpdate (s : NetworkSession) : List Act :=
  .showSession (some (.network s)) :: if s.state = .closed then [.showLifecycle .closed] else []

def reconcile (l : Lobby) (e : SessionEvent) : Course (Except Stale Unit) :=
  match l.sessionFor e with
  | .ok s => ⟨showUpdate (s.update e.session), .ok ()⟩
  | .error stale => ⟨[], .error stale⟩

def reconcileAll (l : Lobby) : List SessionEvent → List Act
  | [] => []
  | e :: es => (l.reconcile e).acts ++ (l.after (l.reconcile e).acts).reconcileAll es

/-- What is done when the channel is lost. The session stays. -/
def connectionLost (reason : Option String) : List Act :=
  [.showStatus <| .failed <| match reason with
    | some reason => "connection lost: " ++ reason
    | none => "connection closed by server"]

def abort (e : SessionError) : List Act :=
  [.showSession none, .showLifecycle .uninitialized, .showStatus (.failed e.message)]

def reset : List Act :=
  [.showSession none, .showLifecycle .uninitialized, .showStatus .idle]

end Lobby

end PaddleLink
