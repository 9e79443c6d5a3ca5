namespace PaddleLink.Decimal

structure Binary where
  mantissa : Nat
  exponent : Int
  narrowBelow : Bool

def Binary.ofBits (bits : UInt64) : Binary :=
  let field := ((bits >>> 52) &&& 0x7FF).toNat
  let fraction := (bits &&& 0xFFFFFFFFFFFFF).toNat
  if field = 0 then ⟨fraction, -1074, false⟩
  else ⟨0x10000000000000 + fraction, (field : Int) - 1075, fraction = 0 && 1 < field⟩

structure Scaled where
  coefficient : Nat
  exponent : Int
  deriving DecidableEq, Repr

def compareScaled (a : Nat) (i : Int) (b : Nat) (j : Int) : Ordering :=
  compare ((a * Nat.pow 10 i.toNat) <<< (-j).toNat) ((b <<< j.toNat) * Nat.pow 10 (-i).toNat)

/-- Whether `d` lies among the reals that round to `x`; the two ends round to the even mantissa. -/
def Binary.readsBack (x : Binary) (d : Scaled) : Bool :=
  let below := if x.narrowBelow then 4 * x.mantissa - 1 else 4 * x.mantissa - 2
  let above := 4 * x.mantissa + 2
  let even := x.mantissa % 2 == 0
  let left := compareScaled d.coefficient d.exponent below (x.exponent - 2)
  let right := compareScaled d.coefficient d.exponent above (x.exponent - 2)
  (left == .gt || (even && left == .eq)) && (right == .lt || (even && right == .eq))

def Binary.steps (x : Binary) (e : Int) : Nat :=
  ((x.mantissa <<< x.exponent.toNat) * Nat.pow 10 (-e).toNat) / (Nat.pow 10 e.toNat <<< (-x.exponent).toNat)

/-- Of two neighbouring multiples `n` and `n + 1` of `10 ^ e` around `x`, the nearer one; a tie goes to
the even one. -/
def Binary.nearer (x : Binary) (n : Nat) (e : Int) : Nat :=
  match compareScaled (2 * n + 1) e (2 * x.mantissa) x.exponent with
  | .gt => n
  | .lt => n + 1
  | .eq => if n % 2 = 0 then n else n + 1

def Binary.onGrid? (x : Binary) (e : Int) : Option Scaled :=
  let n := x.steps e
  match x.readsBack ⟨n, e⟩, x.readsBack ⟨n + 1, e⟩ with
  | true, true => some ⟨x.nearer n e, e⟩
  | true, false => some ⟨n, e⟩
  | false, true => some ⟨n + 1, e⟩
  | false, false => none

def Binary.magnitudeFrom (x : Binary) : (fuel : Nat) → (start : Int) → Int
  | 0, k => k
  | fuel + 1, k =>
    if compareScaled 1 k x.mantissa x.exponent == .gt then k else x.magnitudeFrom fuel (k + 1)

def Binary.magnitude (x : Binary) : Int :=
  let bits : Int := x.mantissa.log2 + x.exponent
  -- a number with `bits` bits has about `0.30103 * bits` digits
  x.magnitudeFrom 4 (bits * 30103 / 100000 - 1)

def Scaled.strip (d : Scaled) : Scaled :=
  go d.coefficient d.coefficient d.exponent
where
  go : Nat → Nat → Int → Scaled
    | 0, n, e => ⟨n, e⟩
    | fuel + 1, n, e => if n % 10 = 0 then go fuel (n / 10) (e + 1) else ⟨n, e⟩

def Binary.exact (x : Binary) : Scaled :=
  ⟨(x.mantissa <<< x.exponent.toNat) * Nat.pow 5 (-x.exponent).toNat, if x.exponent < 0 then x.exponent else 0⟩

/-- The shortest decimal that reads back as the positive number `x`. -/
def Binary.shortest (x : Binary) : Scaled :=
  let k := x.magnitude
  let found := (List.range 17).findSome? fun (i : Nat) => x.onGrid? (k - 1 - (i : Int))
  (found.getD x.exact).strip

end PaddleLink.Decimal
