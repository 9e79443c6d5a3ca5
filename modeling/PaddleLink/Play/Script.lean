import PaddleLink.Json.Place
import PaddleLink.Json.Record
import PaddleLink.Keyboard
import PaddleLink.Text.Quoted

namespace PaddleLink

open Json

structure KeyStep where
  time : Nat
  key : Key
  pressed : Bool
  deriving DecidableEq, Repr

def KeyStep.event (s : KeyStep) : KeyEvent :=
  if s.pressed then .press s.key else .release s.key

structure WrittenStep where
  time : UInt64
  key : String
  pressed : Bool
  deriving DecidableEq, Repr

/-- Reads a step; a key is pressed unless it is said to be released. -/
def WrittenStep.decode : Decoder WrittenStep :=
  (WrittenStep.mk <$> field "at_ms" uint64 <*> field "key" Json.text
    <*> fieldOr "pressed" true boolean : Record WrittenStep).decode "RawStep"

def decodeScript : Decoder (List WrittenStep) :=
  (id <$> field "steps" (Json.list WrittenStep.decode) : Record (List WrittenStep)).decode
    "KeyScriptFile"

inductive ScriptError where
  | json (p : Problem) (place : Place)
  | empty
  | unknownKey (name : String) (time : UInt64)

def ScriptError.message : ScriptError → String
  | .json p place => p.message ++ " at " ++ place.describe
  | .empty => "key script contains no steps"
  | .unknownKey name time => "unknown key " ++ Text.quoted name ++ " at " ++ toString time.toNat ++ " ms"

def scriptKey? (name : String) : Option Key :=
  match String.ofList (name.toList.map Char.toLower) with
  | "w" | "keyw" => some .w
  | "s" | "keys" => some .s
  | "up" | "arrowup" => some .arrowUp
  | "down" | "arrowdown" => some .arrowDown
  | "space" => some .space
  | "escape" | "esc" => some .escape
  | _ => none

def WrittenStep.step (w : WrittenStep) : Except ScriptError KeyStep :=
  match scriptKey? w.key with
  | some key => .ok ⟨w.time.toNat, key, w.pressed⟩
  | none => .error (.unknownKey w.key w.time)

structure Script where
  pending : List KeyStep
  deriving DecidableEq, Repr

namespace Script

def ofSteps (steps : List KeyStep) : Script :=
  ⟨steps.mergeSort fun a b => a.time ≤ b.time⟩

def ofText (s : String) : Except ScriptError Script :=
  match decodeScript.run s with
  | .error p => .error (.json p (decodeScript.place p s))
  | .ok [] => .error .empty
  | .ok written => (written.mapM WrittenStep.step).map ofSteps

def due (s : Script) (elapsed : Nat) : List KeyStep :=
  s.pending.takeWhile fun step => step.time ≤ elapsed

def rest (s : Script) (elapsed : Nat) : Script :=
  ⟨s.pending.dropWhile fun step => step.time ≤ elapsed⟩

end Script

end PaddleLink
