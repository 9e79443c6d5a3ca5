import PaddleLink.Transport.Handshake
import PaddleLink.Transport.Link

namespace PaddleLink

inductive ServerEnd where
  | talking
  | silent
  | gone
  | absent
  deriving DecidableEq, Repr

structure Connection where
  url : Url
  link : Link
  server : ServerEnd
  /-- Whether the client has given up before it got the channel. -/
  abandoned : Bool

namespace Connection

/-- A new connection. Where nobody listens it is lost at once. -/
def fresh (url : Url) (target : Target) (listens : Bool) (now : Nat) : Connection :=
  if listens then ⟨url, .fresh target .fresh, .talking, false⟩
  else ⟨url, .fresh target { Socket.fresh with arrivals := [(now, .hangUp)], sendFault := some .closed },
    .absent, false⟩

def abandon (c : Connection) : Connection :=
  { c with link := { c.link with phase := .ended }, abandoned := true }

def isReachable (c : Connection) : Bool :=
  c.server = .talking && c.link.phase = .running

def deliver (c : Connection) (now : Nat) (a : Arrival) : Connection :=
  { c with link :=
      { c.link with socket := { c.link.socket with arrivals := c.link.socket.arrivals ++ [(now, a)] } } }

def push (c : Connection) (now : Nat) (text : String) : Connection :=
  if c.isReachable then c.deliver now (.frame text) else c

def hangUp (c : Connection) (now : Nat) : Connection :=
  if c.server = .talking then { c.deliver now .hangUp with server := .silent } else c

def dropServer (c : Connection) (now : Nat) : Connection :=
  let c := c.hangUp now
  { c with
    server := .gone
    link := { c.link with socket := { c.link.socket with sendFault := some .closed } } }

def mapLink (c : Connection) (f : Link → Link) : Connection :=
  { c with link := f c.link }

end Connection

structure Server where
  welcome : Welcome
  listens : Bool
  deriving DecidableEq, Repr

structure Connections where
  base : Url
  policy : RetryPolicy
  past : List Connection
  held : Option Connection

inductive Connected where
  | opened
  | alreadyOpen
  deriving DecidableEq, Repr

namespace Connections

def initial (base : Url) (policy : RetryPolicy) : Connections :=
  ⟨base, policy, [], none⟩

def all (c : Connections) : List Connection :=
  c.past ++ c.held.toList

def isOpen (c : Connections) : Bool :=
  match c.held with
  | some k => k.link.isOpen
  | none => false

def mapAll (c : Connections) (f : Connection → Connection) : Connections :=
  { c with past := c.past.map f, held := c.held.map f }

def modify (c : Connections) (i : Nat) (f : Connection → Connection) : Connections :=
  if i < c.past.length then { c with past := c.past.modify i f }
  else if i = c.past.length then { c with held := c.held.map f }
  else c

def mapHeld (c : Connections) (f : Link → Link) : Connections :=
  { c with held := c.held.map fun k => k.mapLink f }

def settle (c : Connections) (now : Nat) : Connections :=
  c.mapAll fun k => k.mapLink fun l => l.settle now

def close (c : Connections) : Connections :=
  { c with past := c.past ++ (c.held.map fun k => k.mapLink Link.close).toList, held := none }

/-- The result of `connect`, how long it took, and the channels afterwards. -/
structure Attempt where
  result : Except TransportError Connected
  elapsed : Nat
  connections : Connections

def afterHandshake (c : Connections) (now : Nat) (listens : Bool) (url : Url) (target : Target)
    (h : Handshake) : Attempt :=
  let c := if h.elapsed = 0 then c else c.settle now
  let connection := Connection.fresh url target listens (now + h.elapsed)
  match h.result with
  | .ok () => ⟨.ok .opened, h.elapsed, { c with held := some connection }⟩
  | .error e =>
    ⟨.error e, h.elapsed, if h.reached then { c with past := c.past ++ [connection.abandon] } else c⟩

/-- Opens a channel, in place of the one that is held unless that one will do. -/
def connect (c : Connections) (now : Nat) (server : Server) (target : Target) : Attempt :=
  if c.isOpen ∧ c.held.map (fun k => k.link.target) = some target then ⟨.ok .alreadyOpen, 0, c⟩
  else
    let c := c.close
    match target.url c.base with
    | .error e => ⟨.error e, 0, c⟩
    | .ok url => c.afterHandshake now server.listens url target (establish c.policy server.welcome)

end Connections

end PaddleLink
