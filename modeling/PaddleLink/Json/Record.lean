import PaddleLink.Json.Decoder

namespace PaddleLink.Json

structure Field where
  name : String
  check : Tree → Except Problem Unit
  optional : Bool

structure Record (α : Type) where
  fields : List Field
  build : (String → Option Tree) → Except Problem α

def Record.pure {α : Type} (a : α) : Record α :=
  ⟨[], fun _ => .ok a⟩

def Record.seq {α β : Type} (f : Record (α → β)) (x : Unit → Record α) : Record β where
  fields := f.fields ++ (x ()).fields
  build look := do
    let g ← f.build look
    let a ← (x ()).build look
    return g a

instance : Applicative Record where
  pure := Record.pure
  seq := Record.seq

def field {α : Type} (name : String) (d : Decoder α) : Record α where
  fields := [⟨name, fun t => (d t).map fun _ => (), false⟩]
  build look :=
    match look name with
    | some t => d t
    | none => .error (.missingField name)

def fieldOr {α : Type} (name : String) (absent : α) (d : Decoder α) : Record α where
  fields := [⟨name, fun t => (d t).map fun _ => (), true⟩]
  build look :=
    match look name with
    | some t => d t
    | none => .ok absent

/-- Checks the members of an object in reading order; `seen` holds the fields met so far. -/
def checkMembers (fields : List Field) (seen : List String) :
    List (Name × Tree) → Except Problem Unit
  | [] => .ok ()
  | (name, t) :: rest => do
    let name ← lexeme name
    match fields.find? fun f => f.name == name with
    | some f =>
      if seen.contains name then throw (.duplicateField name)
      f.check t
      checkMembers fields (name :: seen) rest
    | none =>
      noFault t.skipFault
      checkMembers fields seen rest

def member? (members : List (Name × Tree)) (name : String) : Option Tree :=
  (members.find? fun m => match m.1 with | .ok n => n == name | .error _ => false).map Prod.snd

def countFields (name : String) (n : Nat) : String :=
  "struct " ++ name ++ " with " ++ String.ofList (Decimal.digits n)
    ++ (if n = 1 then " element" else " elements")

def checkItems (expected : String) (ending : Ending) (given : Nat) :
    List Field → List Tree → Except Problem Unit
  | [], [] =>
    match ending with
    | .unexpected _ _ => .error (.fault .trailingText)
    | _ => noFault ending.readFault
  | [], .stray ⟨.trailingComma, _⟩ :: _ => .error (.fault .trailingComma)
  | [], _ :: _ => .error (.fault .surplus)
  | f :: fields, t :: items => do
    f.check t
    checkItems expected ending (given + 1) fields items
  | f :: fields, [] => do
    noFault ending.readFault
    if f.optional then checkItems expected ending (given + 1) fields []
    else throw (.invalidLength given expected)

def item? (fields : List Field) (items : List Tree) (name : String) : Option Tree :=
  ((fields.zip items).find? fun p => p.1.name == name).map Prod.snd

def Record.decode {α : Type} (name : String) (r : Record α) : Decoder α
  | .object members ending => do
    checkMembers r.fields [] members
    noFault ending.readFault
    r.build (member? members)
  | .array items ending => do
    checkItems (countFields name r.fields.length) ending 0 r.fields items
    r.build (item? r.fields items)
  | t => .error (t.mismatch ("struct " ++ name))

end PaddleLink.Json
