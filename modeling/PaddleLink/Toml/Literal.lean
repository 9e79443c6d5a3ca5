import PaddleLink.Decimal.Reading
import PaddleLink.Text.Hex

namespace PaddleLink.Toml

inductive Scalar where
  | string (s : String)
  | integer (i : Int)
  | other
  deriving DecidableEq, Repr

def plainDigits? (isDigit : Char → Bool) : List Char → Option (List Char)
  | [] => none
  | [c] => if isDigit c then some [c] else none
  | c :: '_' :: cs => if isDigit c then (plainDigits? isDigit cs).map (c :: ·) else none
  | c :: cs => if isDigit c then (plainDigits? isDigit cs).map (c :: ·) else none

def digitsValue (base : Nat) (ds : List Char) : Nat :=
  ds.foldl (fun n d => n * base + (Text.hexValue? d).getD 0) 0

def isDigitIn (base : Nat) (c : Char) : Bool :=
  match Text.hexValue? c with
  | some d => d < base
  | none => false

def splitSign : List Char → Bool × List Char
  | '-' :: cs => (true, cs)
  | '+' :: cs => (false, cs)
  | cs => (false, cs)

def wholeDigits? (cs : List Char) : Option (List Char) :=
  match plainDigits? (isDigitIn 10) cs with
  | some ds => if ds.head? = some '0' ∧ 1 < ds.length then none else some ds
  | none => none

def bounded? (i : Int) : Option Int :=
  if -0x8000000000000000 ≤ i ∧ i < 0x8000000000000000 then some i else none

def basedInteger? (base : Nat) (cs : List Char) : Option Int :=
  (plainDigits? (isDigitIn base) cs).bind fun ds => bounded? (digitsValue base ds)

def integer? (cs : List Char) : Option Int :=
  match cs with
  | '0' :: 'x' :: ds => basedInteger? 16 ds
  | '0' :: 'o' :: ds => basedInteger? 8 ds
  | '0' :: 'b' :: ds => basedInteger? 2 ds
  | cs =>
    let (negative, rest) := splitSign cs
    (wholeDigits? rest).bind fun ds =>
      bounded? (if negative then -(digitsValue 10 ds) else digitsValue 10 ds)

def isExponentMark (c : Char) : Bool :=
  c = 'e' || c = 'E'

def partDigits? (cs : List Char) : Option (List Char) :=
  plainDigits? (isDigitIn 10) cs

def fractionDigits? : List Char → Option (List Char)
  | [] => some []
  | _ :: cs => partDigits? cs

def exponent? : List Char → Option Int
  | [] => some 0
  | _ :: cs =>
    let (negative, rest) := splitSign cs
    (partDigits? rest).map fun ds => if negative then -(digitsValue 10 ds) else digitsValue 10 ds

def decimal? (cs : List Char) : Option (Nat × Int) := do
  let mantissa := cs.takeWhile fun c => !isExponentMark c
  let power := cs.dropWhile fun c => !isExponentMark c
  let fraction := mantissa.dropWhile (· ≠ '.')
  guard (!(fraction.isEmpty && power.isEmpty))
  let whole ← wholeDigits? (mantissa.takeWhile (· ≠ '.'))
  let places ← fractionDigits? fraction
  let e ← exponent? power
  return (digitsValue 10 (whole ++ places), e - places.length)

/-- Whether a text is a float. One that is too large is refused, but a negative one counts as minus
infinity. -/
def isFloat (cs : List Char) : Bool :=
  let (negative, rest) := splitSign cs
  if rest = ['i', 'n', 'f'] || rest = ['n', 'a', 'n'] then true
  else match decimal? rest with
    | some (significand, exponent) => negative || !Decimal.isTooLarge significand exponent
    | none => false

def fixedDigits? (count : Nat) (cs : List Char) : Option (Nat × List Char) :=
  let ds := cs.take count
  if ds.length = count ∧ ds.all Char.isDigit then some (digitsValue 10 ds, cs.drop count) else none

def daysIn (year month : Nat) : Nat :=
  if month = 2 then
    if year % 4 = 0 ∧ (year % 100 ≠ 0 ∨ year % 400 = 0) then 29 else 28
  else if [4, 6, 9, 11].contains month then 30 else 31

def behind? (p : Char → Bool) : List Char → Option (List Char)
  | c :: cs => if p c then some cs else none
  | [] => none

def date? (cs : List Char) : Option (List Char) := do
  let (year, cs) ← fixedDigits? 4 cs
  let cs ← behind? (· = '-') cs
  let (month, cs) ← fixedDigits? 2 cs
  let cs ← behind? (· = '-') cs
  let (day, cs) ← fixedDigits? 2 cs
  if 1 ≤ month ∧ month ≤ 12 ∧ 1 ≤ day ∧ day ≤ daysIn year month then some cs else none

def minutes? (cs : List Char) : Option (List Char) := do
  let (hour, cs) ← fixedDigits? 2 cs
  let cs ← behind? (· = ':') cs
  let (minute, cs) ← fixedDigits? 2 cs
  if hour ≤ 23 ∧ minute ≤ 59 then some cs else none

def time? (cs : List Char) : Option (List Char) := do
  let cs ← minutes? cs
  let cs ← behind? (· = ':') cs
  let (second, cs) ← fixedDigits? 2 cs
  if 60 < second then none
  else match cs with
    | '.' :: d :: rest => if d.isDigit then some (rest.dropWhile Char.isDigit) else none
    | '.' :: [] => none
    | cs => some cs

def isOffset (cs : List Char) : Bool :=
  match cs with
  | [] => true
  | ['Z'] => true
  | ['z'] => true
  | '+' :: rest => minutes? rest = some []
  | '-' :: rest => minutes? rest = some []
  | _ => false

def isMoment (cs : List Char) : Bool :=
  match date? cs with
  | some [] => true
  | some (sep :: rest) =>
    (sep = 'T' || sep = 't' || sep = ' ') && (match time? rest with
      | some offset => isOffset offset
      | none => false)
  | none => time? cs = some []

def literal? (cs : List Char) : Option Scalar :=
  if cs = ['t', 'r', 'u', 'e'] || cs = ['f', 'a', 'l', 's', 'e'] then some .other
  else match integer? cs with
    | some i => some (.integer i)
    | none => if isFloat cs || isMoment cs then some .other else none

def isLiteralChar (c : Char) : Bool :=
  c.isAlphanum || ['+', '-', '_', '.', ':'].contains c

/-- Splits off the text of such a value. A date and a time may have a space between them. -/
def splitLiteral (cs : List Char) : List Char × List Char :=
  let word := cs.takeWhile isLiteralChar
  let rest := cs.dropWhile isLiteralChar
  match rest with
  | ' ' :: d :: more =>
    if d.isDigit && date? word = some [] then
      (word ++ ' ' :: (d :: more).takeWhile isLiteralChar, (d :: more).dropWhile isLiteralChar)
    else (word, rest)
  | _ => (word, rest)

end PaddleLink.Toml
