import PaddleLink.Game.Player

namespace PaddleLink

inductive Direction where
  | up
  | down
  deriving DecidableEq, Repr

structure Input where
  direction : Direction
  object : UInt16
  slot : Slot
  deriving DecidableEq, Repr

def Input.paddle (direction : Direction) (slot : Slot) : Input :=
  ⟨direction, slot.paddle, slot⟩

structure GameObject where
  id : UInt16
  x : Float
  y : Float
  orientationX : Float
  orientationY : Float
  velX : Float
  velY : Float
  /-- The width of a rectangle or the radius of a circle. -/
  shapeParam1 : UInt16
  /-- The height of a rectangle, `0` for a circle. -/
  shapeParam2 : UInt16

structure Score where
  player1 : UInt32
  player2 : UInt32
  deriving DecidableEq, Repr

structure GameState where
  score : Score
  deriving DecidableEq, Repr

def GameState.initial : GameState :=
  ⟨⟨0, 0⟩⟩

structure Simulation (σ : Type) where
  step : σ → List Input → Float → σ
  objects : σ → List GameObject

end PaddleLink
