import PaddleLink.Transport.Link

/-!
What one turn of a channel's loop can do. Everything that is said about runs of the loop rests on these cases.
-/

namespace PaddleLink

inductive LinkEnd where
  | asked
  | hungUp
  | failed (e : TransportError)
  deriving DecidableEq, Repr

def Arrival.batch? : Arrival → Option Notice
  | .frame text =>
    match readFrame text with
    | .ok [] => none
    | .ok events => some (.batch events)
    | .error _ => none
  | _ => none

def Arrival.end? : Arrival → Option LinkEnd
  | .failure e => some (.failed e)
  | .hangUp => some .hungUp
  | _ => none

/-- What is told of an end. An end that the client has asked for is no news. -/
def LinkEnd.notices : Option LinkEnd → List Notice
  | none | some .asked => []
  | some .hungUp => [.closed none]
  | some (.failed e) => [.closed (some e.message)]

namespace Link

def turn (l : Link) (now : Nat) : Link :=
  (l.step? now).getD l

def end? (l : Link) (now : Nat) : Option LinkEnd :=
  if l.phase ≠ .running then none
  else if l.closeAsked then some .asked
  else
    match l.outbox, l.socket.arrivals with
    | _ :: _, _ => l.socket.sendFault.map .failed
    | [], (t, a) :: _ => if t ≤ now then a.end? else none
    | [], [] => none

inductive TurnOutcome (l : Link) (now : Nat) : Link → Option LinkEnd → Prop where
  | rest : TurnOutcome l now l none
  | finish (t : Nat) (hp : l.phase = .closing t) : TurnOutcome l now { l with phase := .ended } none
  | close (hp : l.phase = .running) (ha : l.closeAsked = true) :
    TurnOutcome l now { l.recordCall now .close with phase := l.closingPhase now } (some .asked)
  | send (text : String) (outbox : List String) (hp : l.phase = .running) (ha : l.closeAsked = false)
    (ho : l.outbox = text :: outbox) (hf : l.socket.sendFault = none) :
    TurnOutcome l now (recordCall { l with outbox := outbox } now (.send text)) none
  | sendFailed (text : String) (outbox : List String) (e : TransportError) (hp : l.phase = .running)
    (ha : l.closeAsked = false) (ho : l.outbox = text :: outbox) (hf : l.socket.sendFault = some e) :
    TurnOutcome l now ((recordCall { l with outbox := outbox } now (.send text)).lose (some e.message))
      (some (.failed e))
  | accept (t : Nat) (a : Arrival) (arrivals : List (Nat × Arrival)) (hp : l.phase = .running)
    (ha : l.closeAsked = false) (ho : l.outbox = []) (hi : l.socket.arrivals = (t, a) :: arrivals)
    (ht : t ≤ now) :
    TurnOutcome l now (({ l with socket := { l.socket with arrivals := arrivals } } : Link).accept a)
      a.end?

theorem turnOutcome (l : Link) (now : Nat) : l.TurnOutcome now (l.turn now) (l.end? now) := by
  -- the cases are asked in the order in which the loop asks: the close, texts to send, what has come in
  obtain ⟨target, ⟨arrivals, fault, delay, calls⟩, outbox, asked, phase, notices, heard⟩ := l
  cases phase with
  | ended => exact .rest
  | closing t =>
    by_cases ht : t ≤ now
    · simpa [turn, step?, end?, ht] using TurnOutcome.finish t rfl
    · simpa [turn, step?, end?, ht] using TurnOutcome.rest
  | running =>
    cases asked with
    | true => exact .close rfl rfl
    | false =>
      cases outbox with
      | cons text outbox =>
        cases fault with
        | none => exact .send text outbox rfl rfl rfl rfl
        | some e => exact .sendFailed text outbox e rfl rfl rfl rfl
      | nil =>
        cases arrivals with
        | nil => exact .rest
        | cons p arrivals =>
          obtain ⟨t, a⟩ := p
          by_cases ht : t ≤ now
          · have h := TurnOutcome.accept (l := ⟨target, ⟨(t, a) :: arrivals, fault, delay, calls⟩, [], false,
              .running, notices, heard⟩) t a arrivals rfl rfl rfl rfl ht
            simpa [turn, step?, end?, ht] using h
          · simpa [turn, step?, end?, ht] using TurnOutcome.rest

end Link

end PaddleLink
