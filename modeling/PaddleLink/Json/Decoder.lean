import PaddleLink.Json.Problem
import PaddleLink.Json.Tree

namespace PaddleLink.Json

abbrev Decoder (α : Type) := Tree → Except Problem α

def noFault : Option Fault → Except Problem Unit
  | none => .ok ()
  | some f => .error (.fault f)

def lexeme {α : Type} : Except Fault α → Except Problem α
  | .ok a => .ok a
  | .error f => .error (.fault f)

def Tree.mismatch (expected : String) : Tree → Problem
  | .absent f => .fault f
  | .stray b => .fault b.read
  | .broken _ b => .fault b.read
  | .null => .invalidType .null expected
  | .bool b => .invalidType (.boolean b) expected
  | .number (.ok (.integer i)) => .invalidType (.integer i) expected
  | .number (.ok (.float x)) => .invalidType (.float x) expected
  | .number (.error f) => .fault f
  | .string (.ok s) => .invalidType (.string s) expected
  | .string (.error f) => .fault f
  | .array _ _ => .invalidType .sequence expected
  | .object _ _ => .invalidType .map expected

def boolean : Decoder Bool
  | .bool b => .ok b
  | t => .error (t.mismatch "a boolean")

def text : Decoder String
  | .string (.ok s) => .ok s
  | t => .error (t.mismatch "a string")

def natural (bound : Nat) (expected : String) : Decoder Nat
  | .number (.ok (.integer i)) =>
    if 0 ≤ i ∧ i < bound then .ok i.toNat else .error (.invalidValue i expected)
  | t => .error (t.mismatch expected)

def uint8 : Decoder UInt8 := fun t => (natural UInt8.size "u8" t).map UInt8.ofNat

def uint16 : Decoder UInt16 := fun t => (natural UInt16.size "u16" t).map UInt16.ofNat

def uint32 : Decoder UInt32 := fun t => (natural UInt32.size "u32" t).map UInt32.ofNat

def uint64 : Decoder UInt64 := fun t => (natural UInt64.size "u64" t).map UInt64.ofNat

def float : Decoder Float
  | .number (.ok (.float x)) => .ok x
  | .number (.ok (.integer i)) => .ok (Float.ofInt i)
  | t => .error (t.mismatch "f64")

def unit : Decoder Unit
  | .null => .ok ()
  | t => .error (t.mismatch "unit")

def optional {α : Type} (d : Decoder α) : Decoder (Option α)
  | .null => .ok none
  | t => (d t).map some

def list {α : Type} (d : Decoder α) : Decoder (List α)
  | .array items ending => do
    let as ← items.mapM d
    noFault ending.readFault
    return as
  | t => .error (t.mismatch "a sequence")

def refine {α β : Type} (d : Decoder α) (check : α → Except String β) : Decoder β := fun t => do
  match check (← d t) with
  | .ok b => return b
  | .error reason => throw (.refused reason)

def variant {α : Type} (known : List (String × α)) (name : String) : Except Problem α :=
  match known.lookup name with
  | some a => .ok a
  | none => .error (.unknownVariant name (known.map Prod.fst))

def Token.notAName : Token → Problem
  | .null => .invalidType .null "variant identifier"
  | .bool b => .invalidType (.boolean b) "variant identifier"
  | .number n => (Tree.number n).mismatch "variant identifier"
  | .openArray => .invalidType .sequence "variant identifier"
  | .openObject => .invalidType .map "variant identifier"
  | .broken _ b => .fault b.read
  | _ => .fault .noValue

/-- One of finitely many variants: its name, or an object with its name and `null`. -/
def oneOf {α : Type} (known : List (String × α)) : Decoder α
  | .string (.ok s) => variant known s
  | .string (.error f) => .error (.fault f)
  | .object ((name, t) :: rest) ending => do
    let a ← variant known (← lexeme name)
    unit t
    match rest, ending with
    | [], .closed => return a
    | [], .cut ⟨.endInObject, _⟩ => throw (.fault .endInObject)
    | _, _ => throw (.fault .noValue)
  | .object [] (.cut _) => .error (.fault .endInValue)
  | .object [] (.unexpected _ found) => .error found.notAName
  | .absent f => .error (.fault f)
  | .broken .string b => .error (.fault b.read)
  | _ => .error (.fault .noValue)

def Decoder.run {α : Type} (d : Decoder α) (s : String) : Except Problem α := do
  let doc := Document.ofString s
  let a ← d doc.root
  if doc.trailing then throw (.fault .trailingText) else return a

end PaddleLink.Json
