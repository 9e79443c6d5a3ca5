import PaddleLink.Client
import PaddleLink.Log
import PaddleLink.Play.Script

/-!
Play: frames at even distances from the start, until the session is closed, the frame limit is reached or
the player interrupts. Between two frames heartbeats go out and the server acts; of what falls on one time
a frame comes first and the server last.
-/

namespace PaddleLink

structure Play (σ : Type) where
  client : Client
  scene : σ
  script : Script
  frames : Nat
  began : Nat
  last : Nat
  wasConnected : Bool
  records : List LogRecord

inductive Ending where
  | sessionClosed
  | limitReached
  | interrupted
  deriving DecidableEq, Repr

def Ending.record (e : Ending) (frames : Nat) : LogRecord :=
  ⟨.info, match e with
    | .sessionClosed => "Session closed after " ++ toString frames ++ " frames"
    | .limitReached => "Frame limit reached (" ++ toString frames ++ ")"
    | .interrupted => "Interrupted after " ++ toString frames ++ " frames"⟩

inductive Incident where
  | push (text : String)
  | hangUp
  | serverGone
  | fail (e : TransportError)
  | interrupt
  deriving DecidableEq, Repr

def Client.replay (c : Client) (s : KeyStep) : Client :=
  c.type s.event

def Client.isOver (c : Client) : Bool :=
  c.lobby.lifecycle = .closed || (c.lobby.session.map Session.state) = some .closed

def Client.meet (c : Client) (now : Nat) (i : Incident) : Client :=
  let change (f : Connection → Connection) : Client :=
    { c with connections := c.connections.modify (c.connections.all.length - 1) f }
  match i with
  | .push text => change fun k => k.push now text
  | .hangUp => change fun k => k.hangUp now
  | .serverGone => change fun k => k.dropServer now
  | .fail e => change fun k => k.deliver now (.failure e)
  | .interrupt => c

structure Span where
  client : Client
  interrupted : Option Nat
  rest : List (Nat × Incident)

/-- Lets time pass from `now` to `until_`, with the incidents of that span in the order of their times. -/
def Client.passThrough (c : Client) (now until_ : Nat) : List (Nat × Incident) → Span
  | [] => ⟨c.pass now until_, none, []⟩
  | (t, i) :: rest =>
    if until_ < t then ⟨c.pass now until_, none, (t, i) :: rest⟩
    else
      let c := c.pass now t
      match i with
      | .interrupt => ⟨c, some t, rest⟩
      | i => ((c.meet t i).settle t).passThrough t until_ rest

namespace Play

variable {σ : Type}

def start (c : Client) (scene : σ) (script : Script) (now : Nat) : Play σ :=
  ⟨c, scene, script, 0, now, now, c.connections.isOpen, []⟩

def frame (p : Play σ) (sim : Simulation σ) (now : Nat) : Play σ :=
  let elapsed := now - p.began
  let client := (p.script.due elapsed).foldl Client.replay p.client
  let frame := client.frame sim p.scene now (secondsOf (now - p.last))
  let connected := frame.client.connections.isOpen
  { p with
    client := frame.client.nextTick.1
    scene := frame.scene
    script := p.script.rest elapsed
    frames := p.frames + 1
    last := now
    wasConnected := connected
    records := p.records ++
      if p.wasConnected && !connected then
        [⟨.warn, "Connection lost; continuing without network updates"⟩]
      else [] }

def ending? (p : Play σ) (limit : Option Nat) : Option Ending :=
  if p.client.isOver then some .sessionClosed
  else if limit.any (· ≤ p.frames) then some .limitReached
  else none

def scoreRecords (p : Play σ) : List LogRecord :=
  match p.client.score with
  | some s => [⟨.info, "Last score " ++ toString s.state.score.player1.toNat ++ " : " ++
      toString s.state.score.player2.toNat⟩]
  | none => []

def finish (p : Play σ) (e : Ending) : Play σ :=
  { p with records := p.records ++ e.record p.frames :: p.scoreRecords }

structure Outcome (σ : Type) where
  play : Play σ
  ending : Option Ending
  time : Nat

def runFrames (sim : Simulation σ) (limit : Option Nat) :
    (fuel : Nat) → Play σ → (now : Nat) → List (Nat × Incident) → Outcome σ
  | 0, p, now, _ => ⟨p, none, now⟩
  | fuel + 1, p, now, incidents =>
    let p := p.frame sim now
    match p.ending? limit with
    | some e => ⟨p.finish e, some e, now⟩
    | none =>
      let interval := p.client.settings.frameInterval
      -- what falls on the time of the next frame waits for it
      let span := p.client.passThrough now (now + (interval - 1)) incidents
      let p := { p with client := span.client }
      match span.interrupted with
      | some t => ⟨p.finish .interrupted, some .interrupted, t⟩
      | none => runFrames sim limit fuel p (now + interval) span.rest

/-- A number of frames after which play has ended, if it ever does: beyond the last incident only the
limit ends it. -/
def bound (p : Play σ) (limit : Option Nat) (incidents : List (Nat × Incident)) : Nat :=
  match limit with
  | some n => max n 1
  | none =>
    ((incidents.map fun (t, _) => t - p.began).max?.getD 0) / p.client.settings.frameInterval + 2

def run (p : Play σ) (sim : Simulation σ) (limit : Option Nat) (incidents : List (Nat × Incident)) :
    Outcome σ :=
  runFrames sim limit (p.bound limit incidents) p p.began (incidents.mergeSort fun a b => a.1 ≤ b.1)

end Play

end PaddleLink
