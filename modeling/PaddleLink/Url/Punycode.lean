namespace PaddleLink.Url

def punycodeDigit (d : Nat) : Char :=
  if d < 26 then Char.ofNat ('a'.toNat + d) else Char.ofNat ('0'.toNat + (d - 26))

def punycodeValue? (c : Char) : Option Nat :=
  if 'a' ≤ c ∧ c ≤ 'z' then some (c.toNat - 'a'.toNat)
  else if 'A' ≤ c ∧ c ≤ 'Z' then some (c.toNat - 'A'.toNat)
  else if c.isDigit then some (c.toNat - '0'.toNat + 26)
  else none

def punycodeThreshold (k bias : Nat) : Nat :=
  if k ≤ bias then 1 else min 26 (k - bias)

def punycodeDigits (bias k q : Nat) : List Char :=
  let t := punycodeThreshold k bias
  if q < t then [punycodeDigit q]
  else punycodeDigit (t + (q - t) % (36 - t)) :: punycodeDigits bias (k + 36) ((q - t) / (36 - t))
termination_by q
decreasing_by
  have ht : 1 ≤ punycodeThreshold k bias := by
    unfold punycodeThreshold
    split <;> omega
  have := Nat.div_le_self (q - punycodeThreshold k bias) (36 - punycodeThreshold k bias)
  omega

def punycodeScale (delta k : Nat) : Nat :=
  if 455 < delta then punycodeScale (delta / 35) (k + 36) else k + 36 * delta / (delta + 38)
termination_by delta
decreasing_by omega

def punycodeBias (delta count : Nat) (first : Bool) : Nat :=
  let d := if first then delta / 700 else delta / 2
  punycodeScale (d + d / count) 0

structure PunycodeState where
  output : List Char
  delta : Nat
  bias : Nat
  written : Nat

def PunycodeState.visit (basic m : Nat) (s : PunycodeState) (c : Char) : PunycodeState :=
  if c.toNat < m then { s with delta := s.delta + 1 }
  else if c.toNat = m then
    { output := s.output ++ punycodeDigits s.bias 36 s.delta
      delta := 0
      bias := punycodeBias s.delta (s.written + 1) (s.written == basic)
      written := s.written + 1 }
  else s

def PunycodeState.write (label : List Char) (basic : Nat) : List Nat → Nat → PunycodeState → PunycodeState
  | [], _, s => s
  | m :: rest, n, s =>
    let s := { s with delta := s.delta + (m - n) * (s.written + 1) }
    let s := label.foldl (PunycodeState.visit basic m) s
    PunycodeState.write label basic rest (m + 1) { s with delta := s.delta + 1 }

def punycode (label : List Char) : List Char :=
  let basic := label.filter fun c => c.toNat < 0x80
  let others := ((label.filter fun c => 0x80 ≤ c.toNat).map Char.toNat).mergeSort.eraseDups
  let output := if basic.isEmpty then [] else basic ++ ['-']
  (PunycodeState.write label basic.length others 0x80 ⟨output, 0, 72, basic.length⟩).output

def readPunycode (bias : Nat) : (k weight i : Nat) → List Char → Option (Nat × List Char)
  | _, _, _, [] => none
  | k, weight, i, c :: cs =>
    match punycodeValue? c with
    | none => none
    | some d =>
      let t := punycodeThreshold k bias
      let i := i + d * weight
      if UInt32.size ≤ i then none
      else if d < t then some (i, cs)
      else readPunycode bias (k + 36) (weight * (36 - t)) i cs

def readPunycodes : (fuel : Nat) → (label : List Char) → (n i bias : Nat) → List Char → Option (List Char)
  | 0, _, _, _, _, _ => none
  | fuel + 1, label, n, i, bias, cs =>
    if cs.isEmpty then some label
    else match readPunycode bias 36 1 i cs with
      | none => none
      | some (j, rest) =>
        let count := label.length + 1
        let n := n + j / count
        if n.isValidChar then
          readPunycodes fuel (label.insertIdx (j % count) (Char.ofNat n)) n (j % count + 1)
            (punycodeBias (j - i) count (i == 0)) rest
        else none

/-- The label with an encoding, if it is one. A hyphen at the front has no ASCII characters before it, so it
is not written. -/
def unpunycode? (cs : List Char) : Option (List Char) :=
  let digits := (cs.reverse.takeWhile (· ≠ '-')).reverse
  let basic := (cs.take (cs.length - digits.length)).dropLast
  if basic.isEmpty then readPunycodes (cs.length + 1) [] 0x80 0 72 cs
  else readPunycodes (cs.length + 1) basic 0x80 0 72 digits

end PaddleLink.Url
