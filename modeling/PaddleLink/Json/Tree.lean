import PaddleLink.Json.Token

/-!
What has been read of a JSON text: a tree whose last leaf may be the place where the text goes wrong.
Reading the tree from left to right meets the same problems in the same order as reading the text.
-/

namespace PaddleLink.Json

inductive Ending where
  | closed
  | cut (b : Break)
  | unexpected (b : Break) (found : Token)

abbrev Name := Except Fault String

inductive Tree where
  | absent (f : Fault)
  | stray (b : Break)
  | broken (kind : Lexeme) (b : Break)
  | null
  | bool (b : Bool)
  | number (n : Except Fault Number)
  | string (s : Except Fault String)
  | array (items : List Tree) (ending : Ending)
  | object (members : List (Name × Tree)) (ending : Ending)

/-- A value that is not finished yet; what it holds so far is kept newest first. -/
inductive Frame where
  | array (items : List Tree)
  | member (members : List (Name × Tree)) (name : Name)

def Break.same (f : Fault) : Break :=
  ⟨f, f⟩

def Ending.cutArray : Ending :=
  .cut (.same .endInArray)

def Ending.cutObject : Ending :=
  .cut (.same .endInObject)

def giveUp (t : Tree) : List Frame → Tree
  | [] => t
  | .array items :: frames => giveUp (.array (t :: items).reverse .cutArray) frames
  | .member members name :: frames => giveUp (.object ((name, t) :: members).reverse .cutObject) frames

def Token.nameBreak : Token → Break
  | .broken .string b => b
  | _ => .same .noName

def Token.nextNameBreak : Token → Break
  | .closeObject => ⟨.trailingComma, .noName⟩
  | t => t.nameBreak

mutual

def readValue : List Token → List Frame → Tree × List Token
  | [], frames => (giveUp (.absent .endInValue) frames, [])
  | .null :: ts, frames => readAfter .null ts frames
  | .bool b :: ts, frames => readAfter (.bool b) ts frames
  | .number n :: ts, frames => readAfter (.number n) ts frames
  | .string s :: ts, frames => readAfter (.string s) ts frames
  | .openArray :: ts, frames => readFirstItem ts frames
  | .openObject :: ts, frames => readFirstName ts frames
  | .broken kind b :: _, frames => (giveUp (.broken kind b) frames, [])
  | _ :: _, frames => (giveUp (.stray (.same .noValue)) frames, [])

def readFirstItem : List Token → List Frame → Tree × List Token
  | [], frames => (giveUp (.array [] .cutArray) frames, [])
  | .closeArray :: ts, frames => readAfter (.array [] .closed) ts frames
  | .null :: ts, frames => readAfter .null ts (.array [] :: frames)
  | .bool b :: ts, frames => readAfter (.bool b) ts (.array [] :: frames)
  | .number n :: ts, frames => readAfter (.number n) ts (.array [] :: frames)
  | .string s :: ts, frames => readAfter (.string s) ts (.array [] :: frames)
  | .openArray :: ts, frames => readFirstItem ts (.array [] :: frames)
  | .openObject :: ts, frames => readFirstName ts (.array [] :: frames)
  | .broken kind b :: _, frames => (giveUp (.broken kind b) (.array [] :: frames), [])
  | _ :: _, frames => (giveUp (.stray (.same .noValue)) (.array [] :: frames), [])

def readFirstName : List Token → List Frame → Tree × List Token
  | [], frames => (giveUp (.object [] .cutObject) frames, [])
  | .closeObject :: ts, frames => readAfter (.object [] .closed) ts frames
  | .string s :: ts, frames => readColon [] s ts frames
  | t :: _, frames => (giveUp (.object [] (.unexpected t.nameBreak t)) frames, [])

def readName (members : List (Name × Tree)) : List Token → List Frame → Tree × List Token
  | [], frames => (giveUp (.object members.reverse (.cut ⟨.endInValue, .endInObject⟩)) frames, [])
  | .string s :: ts, frames => readColon members s ts frames
  | t :: _, frames => (giveUp (.object members.reverse (.unexpected t.nextNameBreak t)) frames, [])

def readColon (members : List (Name × Tree)) (name : Name) :
    List Token → List Frame → Tree × List Token
  | [], frames => (giveUp (.absent .endInObject) (.member members name :: frames), [])
  | .colon :: ts, frames => readValue ts (.member members name :: frames)
  | _ :: _, frames => (giveUp (.stray (.same .noColon)) (.member members name :: frames), [])

def readAfter (v : Tree) : List Token → List Frame → Tree × List Token
  | ts, [] => (v, ts)
  | [], .array items :: frames => (giveUp (.array (v :: items).reverse .cutArray) frames, [])
  | [], .member members name :: frames =>
    (giveUp (.object ((name, v) :: members).reverse .cutObject) frames, [])
  | t :: ts, .array items :: frames =>
    match t with
    | .comma =>
      match ts with
      | .closeArray :: _ => (giveUp (.stray ⟨.trailingComma, .noValue⟩) (.array (v :: items) :: frames), [])
      | _ => readValue ts (.array (v :: items) :: frames)
    | .closeArray => readAfter (.array (v :: items).reverse .closed) ts frames
    | _ => (giveUp (.array (v :: items).reverse (.unexpected (.same .noArrayEnd) .stray)) frames, [])
  | t :: ts, .member members name :: frames =>
    match t with
    | .comma => readName ((name, v) :: members) ts frames
    | .closeObject => readAfter (.object ((name, v) :: members).reverse .closed) ts frames
    | _ =>
      (giveUp (.object ((name, v) :: members).reverse (.unexpected (.same .noObjectEnd) .stray)) frames, [])

end

structure Document where
  root : Tree
  trailing : Bool

def Document.ofChars (cs : List Char) : Document :=
  let r := readValue (tokens cs) []
  ⟨r.1, !r.2.isEmpty⟩

def Document.ofString (s : String) : Document :=
  .ofChars s.toList

def Ending.readFault : Ending → Option Fault
  | .closed => none
  | .cut b => some b.read
  | .unexpected b _ => some b.read

def Ending.skipFault : Ending → Option Fault
  | .closed => none
  | .cut b => some b.skip
  | .unexpected b _ => some b.skip

mutual

def Tree.skipFault : Tree → Option Fault
  | .absent f => some f
  | .stray b => some b.skip
  | .broken _ b => some b.skip
  | .null => none
  | .bool _ => none
  | .number _ => none
  | .string _ => none
  | .array items ending => skipItems items ending
  | .object members ending => skipMembers members ending

def skipItems : List Tree → Ending → Option Fault
  | [], ending => ending.skipFault
  | t :: ts, ending => t.skipFault.or (skipItems ts ending)

def skipMembers : List (Name × Tree) → Ending → Option Fault
  | [], ending => ending.skipFault
  | (_, t) :: ms, ending => t.skipFault.or (skipMembers ms ending)

end

def fault? {α : Type} : Except Fault α → Option Fault
  | .ok _ => none
  | .error f => some f

mutual

/-- The fault that one meets who keeps a value for later, which may nest `levels` deep. -/
def Tree.keepFault (levels : Nat) : Tree → Option Fault
  | .absent f => some f
  | .stray b => some b.read
  | .broken _ b => some b.read
  | .null => none
  | .bool _ => none
  | .number n => fault? n
  | .string s => fault? s
  | .array items ending => if levels = 0 then some .depth else keepItems (levels - 1) items ending
  | .object members ending =>
    if levels = 0 then some .depth else keepMembers (levels - 1) members ending

def keepItems (levels : Nat) : List Tree → Ending → Option Fault
  | [], ending => ending.readFault
  | t :: ts, ending => (t.keepFault levels).or (keepItems levels ts ending)

def keepMembers (levels : Nat) : List (Name × Tree) → Ending → Option Fault
  | [], ending => ending.readFault
  | (k, t) :: ms, ending => ((fault? k).or (t.keepFault levels)).or (keepMembers levels ms ending)

end

end PaddleLink.Json
