import PaddleLink.Keyboard
import PaddleLink.Wire.Event

/-!
What moves the paddles. Each slot has one source, the keyboard or the network, and the composed inputs are
those of slot 1 followed by those of slot 2.
-/

namespace PaddleLink

inductive InputSource where
  | keyboard
  | network
  deriving DecidableEq, Repr

def Role.source : Role → Slot → InputSource
  | .solo, _ => .keyboard
  | .host, .one => .keyboard
  | .host, .two => .network
  | .peer, .one => .network
  | .peer, .two => .keyboard
  | .observer, _ => .network

structure RemoteInputs where
  latest : List (ActorId × List Input)
  deriving DecidableEq, Repr

namespace RemoteInputs

def empty : RemoteInputs :=
  ⟨[]⟩

def inputsOf (r : RemoteInputs) (player : ActorId) : List Input :=
  (r.latest.lookup player).getD []

/-- Whether an event tells something new. What `me` has sent itself is no news. -/
def changedBy (r : RemoteInputs) (me : Option ActorId) (e : InputEvent) : Bool :=
  me != some e.player && r.latest.lookup e.player != some e.inputs

def apply (r : RemoteInputs) (me : Option ActorId) (e : InputEvent) : RemoteInputs :=
  if r.changedBy me e then
    ⟨(e.player, e.inputs) :: r.latest.filter fun p => p.1 != e.player⟩
  else r

def changedByAny (r : RemoteInputs) (me : Option ActorId) : List InputEvent → Bool
  | [] => false
  | e :: es => r.changedBy me e || (r.apply me e).changedByAny me es

def applyAll (r : RemoteInputs) (me : Option ActorId) (es : List InputEvent) : RemoteInputs :=
  es.foldl (fun r e => r.apply me e) r

end RemoteInputs

def slotInputs (session : Session) (keyboard : Keyboard) (remote : RemoteInputs) (slot : Slot) :
    List Input :=
  match session.role.source slot with
  | .keyboard => keyboard.inputsFor slot
  | .network =>
    match session.network?.bind fun s => s.playerIn slot with
    | some player => remote.inputsOf player.id
    | none => []

def compose (session : Option Session) (keyboard : Keyboard) (remote : RemoteInputs) : List Input :=
  match session with
  | none => []
  | some session => Slot.all.flatMap (slotInputs session keyboard remote)

structure Composer where
  remote : RemoteInputs
  current : List Input
  marks : Nat
  deriving DecidableEq, Repr

namespace Composer

def initial : Composer :=
  ⟨.empty, [], 0⟩

def record (c : Composer) (me : Option ActorId) (events : List InputEvent) : Composer :=
  { c with remote := c.remote.applyAll me events }

def recordAll (c : Composer) (me : Option ActorId) (batches : List (List InputEvent)) : Composer × Bool :=
  batches.foldl (fun (c, heard) es => (c.record me es, heard || c.remote.changedByAny me es)) (c, false)

/-- Composes the inputs anew. The published list is marked only when it changes. -/
def recompute (c : Composer) (session : Option Session) (keyboard : Keyboard) : Composer :=
  let inputs := compose session keyboard c.remote
  if inputs = c.current then c else { c with current := inputs, marks := c.marks + 1 }

/-- Forgets what was heard and publishes an empty list, which always marks it. -/
def reset (c : Composer) : Composer :=
  ⟨.empty, [], c.marks + 1⟩

end Composer

end PaddleLink
