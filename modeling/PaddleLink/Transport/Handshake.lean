import PaddleLink.Settings
import PaddleLink.Transport.Target

/-!
Waiting for a handshake. The endpoint is probed at even distances until it is ready or the attempts are
used up. Times are in milliseconds from the start of the wait.
-/

namespace PaddleLink

/-- What came of probing: the number of the probe that saw readiness, the number of probes and the time. -/
structure Polling where
  attempt : Option Nat
  probes : Nat
  elapsed : Nat
  deriving DecidableEq, Repr

def pollFrom (interval : Nat) (ready : Nat → Bool) : (left made : Nat) → Polling
  | 0, made => ⟨none, made, made * interval⟩
  | left + 1, made =>
    if ready made then ⟨some (made + 1), made + 1, made * interval⟩
    else pollFrom interval ready left (made + 1)

/-- Probes until `ready` says yes; its argument is the number of probes made before. -/
def poll (policy : RetryPolicy) (ready : Nat → Bool) : Polling :=
  pollFrom policy.interval ready policy.attempts 0

def RetryPolicy.timeout (policy : RetryPolicy) : TransportError :=
  .timeout policy.attempts

inductive Welcome where
  | immediate
  | delayed (ms : Nat)
  | silent
  | refused (reason : String)
  | broken
  | failing (ms : Nat) (e : TransportError)
  deriving DecidableEq, Repr

def Welcome.finished (w : Welcome) : Option Nat :=
  match w with
  | .immediate | .refused _ | .broken => some 0
  | .delayed ms | .failing ms _ => some ms
  | .silent => none

def Welcome.result : Welcome → Except TransportError Unit
  | .refused reason => .error (.handshake reason)
  | .broken => .error .handshakeDied
  | .failing _ e => .error e
  | _ => .ok ()

/-- Whether a handshake is over before a time. It begins only when the first probe has failed. -/
def Welcome.isOverBefore (w : Welcome) (time : Nat) : Bool :=
  match w.finished with
  | some t => t < time
  | none => false

structure Handshake where
  result : Except TransportError Unit
  elapsed : Nat
  /-- Whether the server has seen a connection, even if nobody waited for it. -/
  reached : Bool

def establish (policy : RetryPolicy) (w : Welcome) : Handshake :=
  let polling := poll policy fun made => w.isOverBefore (made * policy.interval)
  { result := match polling.attempt with
      | some _ => w.result
      | none => .error policy.timeout
    elapsed := polling.elapsed
    -- a server that answers within the last interval has seen the client all the same
    reached := w.isOverBefore polling.elapsed && (match w.result with | .ok _ => true | .error _ => false) }

end PaddleLink
