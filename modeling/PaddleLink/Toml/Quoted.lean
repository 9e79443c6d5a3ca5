import PaddleLink.Text.Hex

namespace PaddleLink.Toml

def isPlain (c : Char) : Bool :=
  c = '\t' || (0x20 ≤ c.toNat && c.toNat ≠ 0x7F)

def hexCode? (count : Nat) (cs : List Char) : Option (Nat × List Char) :=
  let ds := cs.take count
  if ds.length = count then
    (ds.foldlM (fun n d => (Text.hexValue? d).map (n * 16 + ·)) 0).map fun n => (n, cs.drop count)
  else none

def withCode (r : Nat × List Char) : Option (Char × List Char) :=
  if r.1.isValidChar then some (Char.ofNat r.1, r.2) else none

def escape? : List Char → Option (Char × List Char)
  | 'b' :: cs => some ('\x08', cs)
  | 't' :: cs => some ('\t', cs)
  | 'n' :: cs => some ('\n', cs)
  | 'f' :: cs => some ('\x0c', cs)
  | 'r' :: cs => some ('\r', cs)
  | '"' :: cs => some ('"', cs)
  | '\\' :: cs => some ('\\', cs)
  | 'u' :: cs => (hexCode? 4 cs).bind withCode
  | 'U' :: cs => (hexCode? 8 cs).bind withCode
  | _ => none

def lineEnd? : List Char → Option (List Char)
  | '\n' :: cs => some cs
  | '\r' :: '\n' :: cs => some cs
  | _ => none

def lineString (quote : Char) : (fuel : Nat) → List Char → Option (List Char × List Char)
  | 0, _ => none
  | _, [] => none
  | fuel + 1, c :: cs =>
    if c = quote then some ([], cs)
    else if c = '\\' ∧ quote = '"' then
      (escape? cs).bind fun (e, rest) => (lineString quote fuel rest).map fun (s, r) => (e :: s, r)
    else if isPlain c then (lineString quote fuel cs).map fun (s, r) => (c :: s, r)
    else none

def endsLine (cs : List Char) : Bool :=
  (lineEnd? (cs.dropWhile fun c => c = ' ' || c = '\t')).isSome

def dropLines : (fuel : Nat) → List Char → List Char
  | 0, cs => cs
  | fuel + 1, cs =>
    match cs with
    | ' ' :: rest => dropLines fuel rest
    | '\t' :: rest => dropLines fuel rest
    | cs =>
      match lineEnd? cs with
      | some rest => dropLines fuel rest
      | none => cs

def quoteRun (quote : Char) (cs : List Char) : Nat :=
  (cs.takeWhile (· = quote)).length

/-- A string on several lines, behind its opening quotes and the line end that may follow them. Up to two
quotes may stand in front of the closing three. -/
def linesString (quote : Char) : (fuel : Nat) → List Char → Option (List Char × List Char)
  | 0, _ => none
  | _, [] => none
  | fuel + 1, c :: cs =>
    if c = quote then
      let n := quoteRun quote (c :: cs)
      if n < 3 then (linesString quote fuel cs).map fun (s, r) => (c :: s, r)
      else if n ≤ 5 then some (List.replicate (n - 3) quote, (c :: cs).drop n)
      else none
    else if c = '\\' ∧ quote = '"' then
      if endsLine cs then linesString quote fuel (dropLines cs.length cs)
      else
        (escape? cs).bind fun (e, rest) => (linesString quote fuel rest).map fun (s, r) => (e :: s, r)
    else
      match lineEnd? (c :: cs) with
      | some rest => (linesString quote fuel rest).map fun (s, r) => ('\n' :: s, r)
      | none => if isPlain c then (linesString quote fuel cs).map fun (s, r) => (c :: s, r) else none

def string? (quote : Char) (cs : List Char) : Option (String × List Char) :=
  let r := match cs with
    | b :: a :: rest =>
      if b = quote ∧ a = quote then
        let rest := (lineEnd? rest).getD rest
        linesString quote (rest.length + 1) rest
      else lineString quote (cs.length + 1) cs
    | cs => lineString quote (cs.length + 1) cs
  r.map fun (s, rest) => (String.ofList s, rest)

end PaddleLink.Toml
