import PaddleLink.Transport.Target
import PaddleLink.Wire.Frame

/-!
A channel: the loop between a client and its socket. Texts to send wait in a queue, and what comes in is
handed on as notices. One step of the loop does one thing, the most urgent one: close when asked, else send
the next text, else take what has come in.
-/

namespace PaddleLink

inductive Arrival where
  | frame (text : String)
  | failure (e : TransportError)
  | hangUp
  | collapse
  deriving DecidableEq, Repr

inductive SocketCall where
  | send (text : String)
  | close
  deriving DecidableEq, Repr

inductive Notice where
  | batch (events : List Event)
  | closed (reason : Option String)

/-- The notices up to the loss of the channel. Nothing behind it is ever read. -/
def Notice.upToLoss : List Notice → List Notice
  | [] => []
  | .batch events :: notices => .batch events :: upToLoss notices
  | .closed reason :: _ => [.closed reason]

structure Socket where
  arrivals : List (Nat × Arrival)
  sendFault : Option TransportError
  closeDelay : Nat
  calls : List (Nat × SocketCall)
  deriving DecidableEq, Repr

def Socket.fresh : Socket :=
  ⟨[], none, 0, []⟩

inductive Phase where
  | running
  | closing (until_ : Nat)
  | ended
  deriving DecidableEq, Repr

structure Link where
  target : Target
  socket : Socket
  outbox : List String
  closeAsked : Bool
  phase : Phase
  notices : List Notice
  heard : Bool

namespace Link

def fresh (target : Target) (socket : Socket) : Link :=
  ⟨target, socket, [], false, .running, [], true⟩

def isOpen (l : Link) : Bool :=
  !l.closeAsked && l.phase = .running

/-- Queues a text; it is dropped when the channel is not open. -/
def send (l : Link) (text : String) : Link :=
  if l.isOpen then { l with outbox := l.outbox ++ [text] } else l

def close (l : Link) : Link :=
  { l with closeAsked := true }

def closeLimit : Nat := 1000

def tell (l : Link) (n : Notice) : Link :=
  if l.heard then { l with notices := l.notices ++ [n] } else l

def recordCall (l : Link) (now : Nat) (c : SocketCall) : Link :=
  { l with socket := { l.socket with calls := l.socket.calls ++ [(now, c)] } }

def lose (l : Link) (reason : Option String) : Link :=
  { l.tell (.closed reason) with phase := .ended }

/-- Hands on the events of a frame. A frame that cannot be read or has no events is dropped. -/
def receive (l : Link) (text : String) : Link :=
  match readFrame text with
  | .ok [] => l
  | .ok events => l.tell (.batch events)
  | .error _ => l

def accept (l : Link) : Arrival → Link
  | .frame text => l.receive text
  | .failure e => l.lose (some e.message)
  | .hangUp => l.lose none
  | .collapse => { l with phase := .ended }

def closingPhase (l : Link) (now : Nat) : Phase :=
  if l.socket.closeDelay = 0 then .ended else .closing (now + min l.socket.closeDelay closeLimit)

def transmit (l : Link) (now : Nat) (text : String) : Link :=
  let l := l.recordCall now (.send text)
  match l.socket.sendFault with
  | none => l
  | some e => l.lose (some e.message)

/-- One step of the loop at a time; none when there is nothing to do. -/
def step? (l : Link) (now : Nat) : Option Link :=
  match l.phase with
  | .ended => none
  | .closing t => if t ≤ now then some { l with phase := .ended } else none
  | .running =>
    if l.closeAsked then some { l.recordCall now .close with phase := l.closingPhase now }
    else match l.outbox with
      | text :: outbox => some (transmit { l with outbox := outbox } now text)
      | [] =>
        match l.socket.arrivals with
        | (t, a) :: arrivals =>
          if t ≤ now then some (accept { l with socket := { l.socket with arrivals := arrivals } } a)
          else none
        | [] => none

def Phase.rank : Phase → Nat
  | .running => 2
  | .closing _ => 1
  | .ended => 0

def work (l : Link) : Nat :=
  Phase.rank l.phase + l.outbox.length + l.socket.arrivals.length

@[simp] theorem work_tell (l : Link) (n : Notice) : (l.tell n).work = l.work := by
  unfold tell
  split <;> rfl

theorem work_lose_le (l : Link) (reason : Option String) : (l.lose reason).work ≤ l.work := by
  have h := work_tell l (.closed reason)
  simp only [work, lose, Phase.rank] at h ⊢
  omega

theorem work_accept_le (l : Link) (a : Arrival) : (l.accept a).work ≤ l.work := by
  cases a with
  | frame text =>
    simp only [accept, receive]
    split
    · exact Nat.le_refl _
    · exact Nat.le_of_eq (work_tell _ _)
    · exact Nat.le_refl _
  | failure e => exact work_lose_le l _
  | hangUp => exact work_lose_le l _
  | collapse =>
    simp only [accept, work, Phase.rank]
    omega

theorem work_transmit_le (l : Link) (now : Nat) (text : String) :
    (l.transmit now text).work ≤ l.work := by
  unfold transmit
  simp only
  split
  · exact Nat.le_refl _
  · exact work_lose_le _ _

/-- Every step leaves less to do. -/
theorem work_lt_of_step? {l l' : Link} {now : Nat} (h : l.step? now = some l') : l'.work < l.work := by
  unfold step? at h
  split at h
  · cases h
  · rename_i hp
    split at h
    · cases h
      simp only [work, Phase.rank, hp]
      omega
    · cases h
  · rename_i hp
    split at h
    · cases h
      simp only [work, closingPhase, recordCall, hp]
      split <;> simp only [Phase.rank] <;> omega
    · split at h
      · rename_i text outbox ho
        cases h
        have := work_transmit_le { l with outbox := outbox } now text
        simp only [work, ho, List.length_cons] at this ⊢
        omega
      · split at h
        · rename_i t a arrivals ha
          split at h
          · cases h
            have := work_accept_le { l with socket := { l.socket with arrivals := arrivals } } a
            simp only [work, ha, List.length_cons] at this ⊢
            omega
          · cases h
        · cases h

def settle (l : Link) (now : Nat) : Link :=
  match _h : l.step? now with
  | some l' => l'.settle now
  | none => l
termination_by l.work
decreasing_by exact work_lt_of_step? _h

/-- The next time at which a loop at rest has something to do. -/
def wakesAt (l : Link) : Option Nat :=
  match l.phase with
  | .running => l.socket.arrivals.head?.map Prod.fst
  | .closing t => some t
  | .ended => none

def passUpTo : (fuel : Nat) → Link → (until_ : Nat) → Link
  | 0, l, _ => l
  | fuel + 1, l, until_ =>
    match l.wakesAt with
    | some t => if t ≤ until_ then passUpTo fuel (l.settle t) until_ else l
    | none => l

def pass (l : Link) (now until_ : Nat) : Link :=
  let l := l.settle now
  passUpTo l.work l until_

def endsAt (l : Link) (now : Nat) : Nat :=
  match (l.settle now).phase with
  | .closing t => t
  | _ => now

/-- Whether the stream of notices has come to its end. -/
def isFinished (l : Link) : Bool :=
  l.phase = .ended

def clearNotices (l : Link) : Link :=
  { l with notices := [] }

def stopListening (l : Link) : Link :=
  { l with heard := false, notices := [] }

def hasClosedSocket (l : Link) : Bool :=
  l.socket.calls.any fun c => c.2 = .close

def sent (l : Link) : List String :=
  l.socket.calls.filterMap fun
    | (_, .send text) => some text
    | (_, .close) => none

end Link

end PaddleLink
