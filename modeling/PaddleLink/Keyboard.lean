import PaddleLink.Game.Scene

/-!
The keyboard: which keys are held, and which inputs they stand for. W and S move the left paddle, the
arrow keys the right one.
-/

namespace PaddleLink

inductive Key where
  | w
  | s
  | a
  | d
  | arrowUp
  | arrowDown
  | arrowLeft
  | arrowRight
  | space
  | escape
  | enter
  | digit1
  | digit2
  | other (code : Nat)
  deriving DecidableEq, Repr

def Key.name : Key → String
  | .w => "KeyW"
  | .s => "KeyS"
  | .a => "KeyA"
  | .d => "KeyD"
  | .arrowUp => "ArrowUp"
  | .arrowDown => "ArrowDown"
  | .arrowLeft => "ArrowLeft"
  | .arrowRight => "ArrowRight"
  | .space => "Space"
  | .escape => "Escape"
  | .enter => "Enter"
  | .digit1 => "Digit1"
  | .digit2 => "Digit2"
  | .other code => "Other" ++ toString code

def Key.all : List Key :=
  [.w, .s, .a, .d, .arrowUp, .arrowDown, .arrowLeft, .arrowRight, .space, .escape, .enter, .digit1,
    .digit2]

def Key.ofName? (name : String) : Option Key :=
  Key.all.find? fun k => k.name == name

def keyBindings : List (Key × Direction × Slot) :=
  [(.w, .up, .one), (.s, .down, .one), (.arrowUp, .up, .two), (.arrowDown, .down, .two)]

def Key.input? (k : Key) : Option Input :=
  (keyBindings.lookup k).map fun (direction, slot) => Input.paddle direction slot

inductive KeyEvent where
  | press (k : Key)
  | release (k : Key)
  | clear
  | focus (gained : Bool)
  deriving DecidableEq, Repr

/-- The keys that are held, in the order in which they were pressed. -/
structure Keyboard where
  held : List Key
  deriving DecidableEq, Repr

namespace Keyboard

def empty : Keyboard :=
  ⟨[]⟩

def press (b : Keyboard) (k : Key) : Keyboard :=
  if k ∈ b.held then b else ⟨b.held ++ [k]⟩

def release (b : Keyboard) (k : Key) : Keyboard :=
  ⟨b.held.filter (· ≠ k)⟩

/-- The keyboard after an event. Without the focus no release is ever seen, so all keys count as
released. -/
def after (b : Keyboard) : KeyEvent → Keyboard
  | .press k => b.press k
  | .release k => b.release k
  | .clear => empty
  | .focus gained => if gained then b else empty

def isChangedBy (b : Keyboard) : KeyEvent → Bool
  | .press k => k ∉ b.held
  | .release k => k ∈ b.held
  | .clear => !b.held.isEmpty
  | .focus gained => !gained && !b.held.isEmpty

def inputs (b : Keyboard) : List Input :=
  b.held.filterMap Key.input?

def inputsFor (b : Keyboard) (slot : Slot) : List Input :=
  b.inputs.filter fun i => i.slot = slot

theorem slot_of_mem_inputsFor {b : Keyboard} {slot : Slot} {i : Input} (h : i ∈ b.inputsFor slot) : i.slot = slot := by
  simpa using (List.mem_filter.mp h).2

end Keyboard

end PaddleLink
