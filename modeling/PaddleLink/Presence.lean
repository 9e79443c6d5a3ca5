import PaddleLink.Transport.Link

/-!
Signs of life. A snapshot is one as well, so a heartbeat goes out only when no snapshot was sent within
the last interval. Times are in milliseconds.
-/

namespace PaddleLink

def heartbeatDue (now : Nat) (lastSnapshot : Option Nat) (interval : Nat) : Bool :=
  match lastSnapshot with
  | none => true
  | some last => interval ≤ now - last

structure Pulse where
  session : SessionId
  player : ActorId
  interval : Nat
  next : Nat
  stopped : Bool
  deriving DecidableEq, Repr

inductive Beat where
  /-- A recent snapshot has stood for it. -/
  | skipped
  | sent
  | refused
  deriving DecidableEq, Repr

namespace Pulse

/-- Begins at `now`. Without an interval there are no checks. -/
def start (session : SessionId) (player : ActorId) (interval now : Nat) : Pulse :=
  ⟨session, player, interval, now + interval, interval = 0⟩

def beat (p : Pulse) (lastSnapshot : Option Nat) (isOpen : Bool) : Beat :=
  if ¬ heartbeatDue p.next lastSnapshot p.interval then .skipped
  else if isOpen then .sent
  else .refused

/-- After a check. One that was refused is the last. -/
def after (p : Pulse) : Beat → Pulse
  | .skipped | .sent => { p with next := p.next + p.interval }
  | .refused => { p with stopped := true }

def message (p : Pulse) : Message :=
  .heartbeat ⟨p.session, p.player, UInt64.ofNat p.next⟩

def check (p : Pulse) (lastSnapshot : Option Nat) (l : Link) : Pulse × Link :=
  match p.beat lastSnapshot l.isOpen with
  | .sent => (p.after .sent, l.send (writeMessage p.message))
  | b => (p.after b, l)

def left (p : Pulse) (until_ : Nat) : Nat :=
  (if p.stopped then 0 else 1) + (until_ + 1 - p.next)

theorem check_fst (p : Pulse) (lastSnapshot : Option Nat) (l : Link) :
    (p.check lastSnapshot l).1 = p.after (p.beat lastSnapshot l.isOpen) := by
  unfold check
  split <;> rename_i h <;> simp only [h]

theorem left_after_lt {p : Pulse} {until_ : Nat} (b : Beat)
    (h : p.stopped = false ∧ 0 < p.interval ∧ p.next ≤ until_) :
    (p.after b).left until_ < p.left until_ := by
  obtain ⟨running, positive, due⟩ := h
  cases b <;> simp only [after, left, running] <;> simp <;> omega

def run (p : Pulse) (lastSnapshot : Option Nat) (l : Link) (now until_ : Nat) : Pulse × Link :=
  if h : p.stopped = false ∧ 0 < p.interval ∧ p.next ≤ until_ then
    let checked := p.check lastSnapshot (l.pass now p.next)
    have : checked.1.left until_ < p.left until_ := check_fst p _ _ ▸ left_after_lt _ h
    checked.1.run lastSnapshot (checked.2.settle p.next) p.next until_
  else (p, l.pass now until_)
termination_by p.left until_

end Pulse

end PaddleLink
