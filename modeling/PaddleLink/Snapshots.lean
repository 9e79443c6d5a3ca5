import PaddleLink.Keyboard
import PaddleLink.Wire.Event

namespace PaddleLink

def snapshot? (session : Session) (keyboard : Keyboard) (objects : List GameObject) (time : UInt64) :
    Option Snapshot := do
  let s ← session.network?
  guard (s.state ≠ .closed)
  let slot ← s.role.keyboardSlot
  return {
    session := s.id
    inputs := keyboard.inputsFor slot
    objects := if s.role = .host then some objects else none
    player := s.me.id
    time := time }

end PaddleLink
