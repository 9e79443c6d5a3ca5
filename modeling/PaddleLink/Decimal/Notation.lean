import PaddleLink.Decimal.Shortest

namespace PaddleLink.Decimal

def digit (d : Nat) : Char :=
  Char.ofNat ('0'.toNat + d)

def digits (n : Nat) : List Char :=
  if n < 10 then [digit n] else digits (n / 10) ++ [digit (n % 10)]
termination_by n

def ofInt : Int → List Char
  | .ofNat n => digits n
  | .negSucc n => '-' :: digits (n + 1)

def zeros (count : Nat) : List Char :=
  List.replicate count '0'

/-- Lays out the digits `ds` of `0.ds * 10 ^ point`. -/
def layout (ds : List Char) (point : Int) : List Char :=
  if 0 < point ∧ point ≤ 16 then
    let whole := point.toNat
    if ds.length ≤ whole then ds ++ zeros (whole - ds.length) ++ ['.', '0']
    else ds.take whole ++ '.' :: ds.drop whole
  else if -5 < point ∧ point ≤ 0 then
    '0' :: '.' :: zeros (-point).toNat ++ ds
  else
    let fraction := if ds.length ≤ 1 then [] else '.' :: ds.drop 1
    let exponent := point - 1
    ds.take 1 ++ fraction ++ 'e' :: (if exponent < 0 then '-' else '+') :: digits exponent.natAbs

def ofFloat (x : Float) : List Char :=
  let bits := x.toBits
  let sign := if bits >>> 63 = 1 then ['-'] else []
  let size := bits &&& 0x7FFFFFFFFFFFFFFF
  if size = 0 then sign ++ ['0', '.', '0']
  else
    let d := (Binary.ofBits size).shortest
    let ds := digits d.coefficient
    sign ++ layout ds (ds.length + d.exponent)

end PaddleLink.Decimal
