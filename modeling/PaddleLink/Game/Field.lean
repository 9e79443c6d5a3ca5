import PaddleLink.Game.Scene

namespace PaddleLink

structure Field where
  leftPaddle : Float
  rightPaddle : Float
  ballX : Float
  ballY : Float
  ballVelX : Float
  ballVelY : Float

namespace Field

def width : Float := 800

def height : Float := 600

def paddleWidth : UInt16 := 10

def paddleHeight : UInt16 := 80

def paddleSpeed : Float := 300

def ballRadius : UInt16 := 8

def initial : Field :=
  ⟨height / 2, height / 2, width / 2, height / 2, 180, 120⟩

def clamp (x low high : Float) : Float :=
  if x < low then low else if high < x then high else x

def movePaddle (y : Float) (direction : Direction) (seconds : Float) : Float :=
  let half := paddleHeight.toNat.toFloat / 2
  let delta := match direction with
    | .up => -paddleSpeed * seconds
    | .down => paddleSpeed * seconds
  clamp (y + delta) half (height - half)

/-- Applies an input for some seconds; one for another object than a paddle does nothing. -/
def applyInput (seconds : Float) (f : Field) (i : Input) : Field :=
  if i.object = Slot.one.paddle then
    { f with leftPaddle := movePaddle f.leftPaddle i.direction seconds }
  else if i.object = Slot.two.paddle then
    { f with rightPaddle := movePaddle f.rightPaddle i.direction seconds }
  else f

/-- One coordinate of the ball after some seconds, between two walls `size` apart, and its velocity. -/
def moveBall (x vel seconds size : Float) : Float × Float :=
  let r := ballRadius.toNat.toFloat
  let x := x + vel * seconds
  if x < r || x > size - r then (clamp x r (size - r), -vel) else (x, vel)

def step (f : Field) (inputs : List Input) (seconds : Float) : Field :=
  let f := inputs.foldl (applyInput seconds) f
  let (x, velX) := moveBall f.ballX f.ballVelX seconds width
  let (y, velY) := moveBall f.ballY f.ballVelY seconds height
  { f with ballX := x, ballY := y, ballVelX := velX, ballVelY := velY }

def paddleObject (f : Field) (slot : Slot) : GameObject where
  id := slot.paddle
  x := match slot with
    | .one => 20
    | .two => width - 20
  y := match slot with
    | .one => f.leftPaddle
    | .two => f.rightPaddle
  orientationX := 0
  orientationY := 1
  velX := 0
  velY := 0
  shapeParam1 := paddleWidth
  shapeParam2 := paddleHeight

def ballObject (f : Field) : GameObject where
  id := 2
  x := f.ballX
  y := f.ballY
  orientationX := 1
  orientationY := 0
  velX := f.ballVelX
  velY := f.ballVelY
  shapeParam1 := ballRadius
  shapeParam2 := 0

def objects (f : Field) : List GameObject :=
  [f.paddleObject .one, f.paddleObject .two, f.ballObject]

def simulation : Simulation Field :=
  ⟨step, objects⟩

end Field

end PaddleLink
