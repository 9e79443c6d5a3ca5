import PaddleLink.Decimal.Reading
import PaddleLink.Text.Hex

/-!
Lexemes of JSON: numbers, strings and words. Each lexeme is read twice over: for its value, and for
its extent alone when the value is not wanted. The two readings differ in what they refuse.
-/

namespace PaddleLink.Json

inductive Fault where
  | endInValue
  | endInArray
  | endInObject
  | endInString
  | noValue
  | noWord
  | noColon
  | noArrayEnd
  | noObjectEnd
  | noName
  | number
  | range
  | escape
  | control
  | loneHalf
  | missingHalf
  | trailingComma
  | trailingText
  | surplus
  | depth
  deriving DecidableEq, Repr

def Fault.isEnd : Fault → Bool
  | .endInValue | .endInArray | .endInObject | .endInString => true
  | _ => false

def Fault.message : Fault → String
  | .endInValue => "EOF while parsing a value"
  | .endInArray => "EOF while parsing a list"
  | .endInObject => "EOF while parsing an object"
  | .endInString => "EOF while parsing a string"
  | .noValue => "expected value"
  | .noWord => "expected ident"
  | .noColon => "expected `:`"
  | .noArrayEnd => "expected `,` or `]`"
  | .noObjectEnd => "expected `,` or `\x7d`"
  | .noName => "key must be a string"
  | .number => "invalid number"
  | .range => "number out of range"
  | .escape => "invalid escape"
  | .control => "control character (\\u0000-\\u001F) found while parsing a string"
  | .loneHalf => "lone leading surrogate in hex escape"
  | .missingHalf => "unexpected end of hex escape"
  | .trailingComma => "trailing comma"
  | .trailingText | .surplus => "trailing characters"
  | .depth => "recursion limit exceeded"

/-- What is wrong with a lexeme: for a reader of its value, and for one that only passes over it. -/
structure Break where
  read : Fault
  skip : Fault
  deriving DecidableEq, Repr

inductive Number where
  | integer (i : Int)
  | float (x : Float)

structure Numeral where
  negative : Bool
  whole : List Nat
  fraction : List Nat
  exponent : Option (Bool × List Nat)

def digitValue (c : Char) : Nat :=
  c.toNat - '0'.toNat

def leadingDigits (cs : List Char) : List Nat :=
  (cs.takeWhile Char.isDigit).map digitValue

def afterDigits (cs : List Char) : List Char :=
  cs.dropWhile Char.isDigit

/-- The fault of a text that should go on with a digit: where it ends, a reader of the value reports the
end, and one that skips the number does not tell the two apart. -/
def noDigit : List Char → Break
  | [] => ⟨.endInValue, .number⟩
  | _ :: _ => ⟨.number, .number⟩

def scanDigits (cs : List Char) : Except Break (List Nat × List Char) :=
  if (leadingDigits cs).isEmpty then .error (noDigit cs) else .ok (leadingDigits cs, afterDigits cs)

def scanWhole : List Char → Except Break (List Nat × List Char)
  | '0' :: cs => if (leadingDigits cs).isEmpty then .ok ([0], cs) else .error ⟨.number, .number⟩
  | cs => scanDigits cs

def scanFraction : List Char → Except Break (List Nat × List Char)
  | '.' :: cs => scanDigits cs
  | cs => .ok ([], cs)

def scanExponentDigits (negative : Bool) (cs : List Char) :
    Except Break (Option (Bool × List Nat) × List Char) :=
  (scanDigits cs).map fun (ds, rest) => (some (negative, ds), rest)

def scanSignedExponent : List Char → Except Break (Option (Bool × List Nat) × List Char)
  | '+' :: cs => scanExponentDigits false cs
  | '-' :: cs => scanExponentDigits true cs
  | cs => scanExponentDigits false cs

def scanExponent : List Char → Except Break (Option (Bool × List Nat) × List Char)
  | 'e' :: cs => scanSignedExponent cs
  | 'E' :: cs => scanSignedExponent cs
  | cs => .ok (none, cs)

def scanUnsigned (negative : Bool) (cs : List Char) : Except Break (Numeral × List Char) := do
  let (whole, cs) ← scanWhole cs
  let (fraction, cs) ← scanFraction cs
  let (exponent, cs) ← scanExponent cs
  return (⟨negative, whole, fraction, exponent⟩, cs)

def scanNumber : List Char → Except Break (Numeral × List Char)
  | '-' :: cs => scanUnsigned true cs
  | cs => scanUnsigned false cs

/-- Appends digits to a significand as long as it stays below `2 ^ 64`; also gives the number of digits
that found no room. -/
def absorb (significand : Nat) : List Nat → Nat × Nat
  | [] => (significand, 0)
  | d :: ds =>
    if significand * 10 + d < UInt64.size then absorb (significand * 10 + d) ds
    else (significand, ds.length + 1)

def exponentValue (value : Nat) : List Nat → Option Nat
  | [] => some value
  | d :: ds => if value * 10 + d < 0x80000000 then exponentValue (value * 10 + d) ds else none

def signed (negative : Bool) (x : Float) : Float :=
  if negative then -x else x

def floatValue (negative : Bool) (significand : Nat) (scale : Int) :
    Option (Bool × List Nat) → Except Fault Number
  | none => finish scale
  | some (down, ds) =>
    match exponentValue 0 ds with
    | some e => finish (if down then scale - e else scale + e)
    | none => if significand ≠ 0 ∧ ¬ down then .error .range else .ok (.float (signed negative 0))
where
  finish (exponent : Int) : Except Fault Number :=
    match Decimal.toFloat? significand exponent with
    | some x => .ok (.float (signed negative x))
    | none => .error .range

/-- The value of a number. Digits beyond the 64 bits of the significand count only by their place. -/
def Numeral.value (n : Numeral) : Except Fault Number :=
  let (whole, dropped) := absorb 0 n.whole
  if n.fraction.isEmpty ∧ n.exponent.isNone then
    if dropped ≠ 0 then floatValue n.negative whole dropped none
    else if ¬ n.negative then .ok (.integer whole)
    else if whole = 0 ∨ 0x8000000000000000 < whole then .ok (.float (-(Float.ofNat whole)))
    else .ok (.integer (-whole))
  else
    let (significand, ignored) := absorb whole n.fraction
    floatValue n.negative significand ((dropped : Int) - ((n.fraction.length : Int) - ignored)) n.exponent

inductive Piece where
  | char (c : Char)
  | unit (n : Nat)
  deriving DecidableEq, Repr

def unitValue? (a b c d : Char) : Option Nat :=
  match Text.hexValue? a, Text.hexValue? b, Text.hexValue? c, Text.hexValue? d with
  | some a, some b, some c, some d => some (((a * 16 + b) * 16 + c) * 16 + d)
  | _, _, _, _ => none

def escaped? : Char → Option Char
  | '"' => some '"'
  | '\\' => some '\\'
  | '/' => some '/'
  | 'b' => some '\x08'
  | 'f' => some '\x0c'
  | 'n' => some '\n'
  | 'r' => some '\r'
  | 't' => some '\t'
  | _ => none

def shortUnit (cs : List Char) : Fault :=
  if (String.ofList cs).utf8ByteSize < 4 then .endInString else .escape

def withPiece (p : Piece) (r : List Piece × Except Fault (List Char)) :
    List Piece × Except Fault (List Char) :=
  (p :: r.1, r.2)

def scanPieces : List Char → List Piece × Except Fault (List Char)
  | [] => ([], .error .endInString)
  | '"' :: cs => ([], .ok cs)
  | '\\' :: 'u' :: a :: b :: c :: d :: cs =>
    match unitValue? a b c d with
    | some n => withPiece (.unit n) (scanPieces cs)
    | none => ([], .error .escape)
  | '\\' :: 'u' :: cs => ([], .error (shortUnit cs))
  | '\\' :: c :: cs =>
    match escaped? c with
    | some e => withPiece (.char e) (scanPieces cs)
    -- the backslash stands for itself, so that it is no second half of a pair
    | none => ([.char '\\'], .error .escape)
  | '\\' :: [] => ([], .error .endInString)
  | c :: cs =>
    if c.toNat < 0x20 then ([.char c], .error .control)
    else withPiece (.char c) (scanPieces cs)

def isHighHalf (n : Nat) : Bool :=
  0xD800 ≤ n && n < 0xDC00

def isLowHalf (n : Nat) : Bool :=
  0xDC00 ≤ n && n < 0xE000

/-- The text of a string's pieces. Halves of pairs have to stand together; `fault` is what the string ends
with in place of its closing quote. -/
def joinPieces (fault : Option Fault) : List Piece → Except Fault (List Char)
  | [] => match fault with
    | none => .ok []
    | some f => .error f
  | .char c :: ps => (joinPieces fault ps).map (c :: ·)
  | .unit n :: .unit m :: ps =>
    if isHighHalf n then
      if isLowHalf m then
        (joinPieces fault ps).map (Char.ofNat (0x10000 + (n - 0xD800) * 0x400 + (m - 0xDC00)) :: ·)
      else .error .loneHalf
    else if isLowHalf n then .error .loneHalf
    else (joinPieces fault (.unit m :: ps)).map (Char.ofNat n :: ·)
  | .unit n :: ps =>
    if isHighHalf n then
      match ps, fault with
      | [], some f => .error f
      | _, _ => .error .missingHalf
    else if isLowHalf n then .error .loneHalf
    else (joinPieces fault ps).map (Char.ofNat n :: ·)

def scanWord : (word : List Char) → List Char → Except Fault (List Char)
  | [], cs => .ok cs
  | _ :: _, [] => .error .endInValue
  | w :: ws, c :: cs => if w = c then scanWord ws cs else .error .noWord

end PaddleLink.Json
