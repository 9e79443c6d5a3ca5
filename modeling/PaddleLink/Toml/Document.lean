import PaddleLink.Toml.Quoted
import PaddleLink.Toml.Table

namespace PaddleLink.Toml

/-- How deep arrays and tables nest inside of a value, and how many parts a key has, at most. -/
def maxDepth : Nat := 79

def dropBlanks (cs : List Char) : List Char :=
  cs.dropWhile fun c => c = ' ' || c = '\t'

def dropComment (cs : List Char) : Option (List Char) :=
  match cs with
  | '#' :: rest =>
    let after := rest.dropWhile isPlain
    if after.isEmpty || (lineEnd? after).isSome then some after else none
  | cs => some cs

def dropSpace : (fuel : Nat) → List Char → Option (List Char)
  | 0, cs => some cs
  | fuel + 1, cs =>
    match cs with
    | ' ' :: rest => dropSpace fuel rest
    | '\t' :: rest => dropSpace fuel rest
    | '#' :: rest => (dropComment ('#' :: rest)).bind (dropSpace fuel)
    | cs =>
      match lineEnd? cs with
      | some rest => dropSpace fuel rest
      | none => some cs

def isKeyChar (c : Char) : Bool :=
  c.isAlphanum || c = '_' || c = '-'

def simpleKey? (cs : List Char) : Option (String × List Char) :=
  match cs with
  | '"' :: rest => (lineString '"' (rest.length + 1) rest).map fun (s, r) => (String.ofList s, r)
  | '\'' :: rest => (lineString '\'' (rest.length + 1) rest).map fun (s, r) => (String.ofList s, r)
  | cs =>
    let key := cs.takeWhile isKeyChar
    if key.isEmpty then none else some (String.ofList key, cs.dropWhile isKeyChar)

def key? : (depth : Nat) → List Char → Option (List String × List Char)
  | 0, _ => none
  | depth + 1, cs => do
    let (key, rest) ← simpleKey? (dropBlanks cs)
    match dropBlanks rest with
    | '.' :: more =>
      let (keys, rest) ← key? depth more
      return (key :: keys, rest)
    | rest => return ([key], rest)

mutual

def value? : (fuel depth : Nat) → List Char → Option (Scalar × List Char)
  | 0, _, _ => none
  | fuel + 1, depth, cs =>
    match cs with
    | '"' :: rest => (string? '"' rest).map fun (s, r) => (.string s, r)
    | '\'' :: rest => (string? '\'' rest).map fun (s, r) => (.string s, r)
    | '[' :: rest => if depth = 0 then none else items? fuel (depth - 1) rest
    | '\x7b' :: rest =>
      if depth = 0 then none
      else match dropBlanks rest with
        | '\x7d' :: rest => some (.other, rest)
        | rest => members? fuel (depth - 1) [] rest
    | cs =>
      let (word, rest) := splitLiteral cs
      (literal? word).map fun v => (v, rest)

def items? : (fuel depth : Nat) → List Char → Option (Scalar × List Char)
  | 0, _, _ => none
  | fuel + 1, depth, cs => do
    match ← dropSpace cs.length cs with
    | ']' :: rest => return (.other, rest)
    | cs =>
      let (_, rest) ← value? fuel depth cs
      match ← dropSpace rest.length rest with
      | ',' :: rest => items? fuel depth rest
      | ']' :: rest => return (.other, rest)
      | _ => none

def members? : (fuel depth : Nat) → Entries → List Char → Option (Scalar × List Char)
  | 0, _, _, _ => none
  | fuel + 1, depth, es, cs => do
    let (keys, rest) ← key? maxDepth cs
    let rest ← behind? (· = '=') rest
    let (v, rest) ← value? fuel depth (dropBlanks rest)
    let es ← setValue v true keys es
    match dropBlanks rest with
    | ',' :: rest => members? fuel depth es rest
    | '\x7d' :: rest => return (.other, rest)
    | _ => none

end

structure Reading where
  entries : Entries
  path : List String

def finishLine (cs : List Char) : Option (List Char) :=
  (dropComment (dropBlanks cs)).bind fun rest => if rest.isEmpty then some [] else lineEnd? rest

def Reading.header (r : Reading) (array : Bool) (keys : List String) : Option Reading := do
  let last ← keys.getLast?
  let entries ← within (if array then openNext last else openTable last) keys.dropLast r.entries
  return ⟨entries, keys⟩

def Reading.line (r : Reading) (cs : List Char) : Option (Reading × List Char) :=
  match cs with
  | '[' :: '[' :: rest => do
    let (keys, rest) ← key? maxDepth rest
    let rest ← behind? (· = ']') rest
    let rest ← behind? (· = ']') rest
    return (← r.header true keys, ← finishLine rest)
  | '[' :: rest => do
    let (keys, rest) ← key? maxDepth rest
    let rest ← behind? (· = ']') rest
    return (← r.header false keys, ← finishLine rest)
  | cs => do
    let (keys, rest) ← key? maxDepth cs
    let rest ← behind? (· = '=') rest
    let (v, rest) ← value? (rest.length + 1) maxDepth (dropBlanks rest)
    let entries ← within (setValue v true keys) r.path r.entries
    return (⟨entries, r.path⟩, ← finishLine rest)

def Reading.lines : (fuel : Nat) → Reading → List Char → Option Entries
  | 0, _, _ => none
  | fuel + 1, r, cs =>
    match dropSpace cs.length cs with
    | none => none
    | some [] => some r.entries
    | some cs => (r.line cs).bind fun (r, rest) => Reading.lines fuel r rest

def read? (cs : List Char) : Option Entries :=
  let cs := if cs.head? = some '\ufeff' then cs.drop 1 else cs
  Reading.lines (cs.length + 1) ⟨[], []⟩ cs

end PaddleLink.Toml
