namespace PaddleLink

structure ActorId where
  text : String
  deriving DecidableEq, Repr

inductive Slot where
  | one
  | two
  deriving DecidableEq, Repr

def Slot.all : List Slot :=
  [.one, .two]

def Slot.number : Slot → UInt8
  | .one => 1
  | .two => 2

def Slot.ofNumber? : UInt8 → Option Slot
  | 1 => some .one
  | 2 => some .two
  | _ => none

def Slot.paddle : Slot → UInt16
  | .one => 0
  | .two => 1

def Slot.refusal (n : UInt8) : String :=
  "invalid player slot " ++ toString n.toNat ++ " (expected 1 or 2)"

structure Actor where
  id : ActorId
  deriving DecidableEq, Repr

structure Player where
  id : ActorId
  slot : Slot
  deriving DecidableEq, Repr

@[simp] theorem Slot.ofNumber?_number (s : Slot) : Slot.ofNumber? s.number = some s := by
  cases s <;> rfl

end PaddleLink
