import PaddleLink.Text.Hex

namespace PaddleLink.Url

def percentByte (b : UInt8) : List Char :=
  ['%', Text.upperHexDigit (b.toNat / 16), Text.upperHexDigit (b.toNat % 16)]

def encodeChar (special : Char → Bool) (c : Char) : List Char :=
  if c.toNat < 0x80 && !special c then [c] else (String.utf8EncodeChar c).flatMap percentByte

def encode (special : Char → Bool) (cs : List Char) : List Char :=
  cs.flatMap (encodeChar special)

def isControl (c : Char) : Bool :=
  c.toNat < 0x20 || c.toNat == 0x7F

def isFragmentSpecial (c : Char) : Bool :=
  isControl c || [' ', '"', '<', '>', '\x60'].contains c

def isPathSpecial (c : Char) : Bool :=
  isFragmentSpecial c || ['#', '?', '\x7b', '\x7d'].contains c

def isUserinfoSpecial (c : Char) : Bool :=
  isPathSpecial c || ['/', ':', ';', '=', '@', '[', '\\', ']', '^', '|'].contains c

def isQuerySpecial (c : Char) : Bool :=
  isControl c || [' ', '"', '#', '<', '>'].contains c

def isSpecialQuerySpecial (c : Char) : Bool :=
  isQuerySpecial c || c == '\''

/-- The bytes of a text in which some are percent-encoded. A percent sign without two digits stands for
itself. -/
def decodeBytes : List Char → List UInt8
  | [] => []
  | '%' :: a :: b :: cs =>
    match Text.hexValue? a, Text.hexValue? b with
    | some x, some y => UInt8.ofNat (16 * x + y) :: decodeBytes cs
    | _, _ => UInt8.ofNat '%'.toNat :: decodeBytes (a :: b :: cs)
  | c :: cs => String.utf8EncodeChar c ++ decodeBytes cs

def isFormPlain (b : UInt8) : Bool :=
  let c := Char.ofNat b.toNat
  c.isAlphanum || ['*', '-', '.', '_'].contains c

def formByte (b : UInt8) : List Char :=
  if isFormPlain b then [Char.ofNat b.toNat] else if b = 0x20 then ['+'] else percentByte b

def formText (s : String) : List Char :=
  s.toList.flatMap fun c => (String.utf8EncodeChar c).flatMap formByte

def formPair (p : String × String) : List Char :=
  formText p.1 ++ '=' :: formText p.2

def formPairs (ps : List (String × String)) : List Char :=
  ['&'].intercalate (ps.map formPair)

end PaddleLink.Url
