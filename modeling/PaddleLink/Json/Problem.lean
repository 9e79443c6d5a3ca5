import PaddleLink.Decimal.Notation
import PaddleLink.Json.Lexeme
import PaddleLink.Text.Quoted

namespace PaddleLink.Json

inductive Found where
  | null
  | boolean (b : Bool)
  | integer (i : Int)
  | float (x : Float)
  | string (s : String)
  | sequence
  | map

inductive Problem where
  | fault (f : Fault)
  | invalidType (found : Found) (expected : String)
  | invalidValue (i : Int) (expected : String)
  | invalidLength (length : Nat) (expected : String)
  | missingField (name : String)
  | duplicateField (name : String)
  | unknownVariant (name : String) (known : List String)
  | refused (reason : String)

inductive Category where
  | malformed
  | cutShort
  | shape
  deriving DecidableEq, Repr

def Problem.category : Problem → Category
  | .fault f => if f.isEnd then .cutShort else .malformed
  | _ => .shape

def named (s : String) : String :=
  "`" ++ s ++ "`"

def Found.describe : Found → String
  | .null => "null"
  | .boolean b => "boolean " ++ named (if b then "true" else "false")
  | .integer i => "integer " ++ named (String.ofList (Decimal.ofInt i))
  | .float x => "floating point " ++ named (String.ofList (Decimal.ofFloat x))
  | .string s => "string " ++ Text.quoted s
  | .sequence => "sequence"
  | .map => "map"

def choice : List String → String
  | [] => "nothing"
  | [a] => named a
  | [a, b] => named a ++ " or " ++ named b
  | names => "one of " ++ ", ".intercalate (names.map named)

def Problem.message : Problem → String
  | .fault f => f.message
  | .invalidType found expected => "invalid type: " ++ found.describe ++ ", expected " ++ expected
  | .invalidValue i expected =>
    "invalid value: " ++ (Found.integer i).describe ++ ", expected " ++ expected
  | .invalidLength n expected =>
    "invalid length " ++ String.ofList (Decimal.digits n) ++ ", expected " ++ expected
  | .missingField name => "missing field " ++ named name
  | .duplicateField name => "duplicate field " ++ named name
  | .unknownVariant name known => "unknown variant " ++ named name ++ ", expected " ++ choice known
  | .refused reason => reason

end PaddleLink.Json
