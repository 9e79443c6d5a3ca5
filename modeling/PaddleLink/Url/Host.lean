import PaddleLink.Decimal.Notation
import PaddleLink.Url.Domain

namespace PaddleLink

namespace Url

inductive ParseError where
  | emptyHost
  | invalidDomain
  | invalidPort
  | invalidIpv4
  | invalidIpv6
  | invalidHostChar
  | relativeWithoutBase
  deriving DecidableEq, Repr

def ParseError.message : ParseError → String
  | .emptyHost => "empty host"
  | .invalidDomain => "invalid international domain name"
  | .invalidPort => "invalid port number"
  | .invalidIpv4 => "invalid IPv4 address"
  | .invalidIpv6 => "invalid IPv6 address"
  | .invalidHostChar => "invalid domain character"
  | .relativeWithoutBase => "relative URL without a base"

end Url

inductive Host where
  | domain (name : List Char)
  | ipv4 (address : UInt32)
  | ipv6 (pieces : List UInt16)
  deriving DecidableEq, Repr

namespace Host

open Url

def valueIn (base : Nat) (cs : List Char) : Option Nat :=
  cs.foldlM (fun n c =>
    match Text.hexValue? c with
    | some d => if d < base then some (n * base + d) else none
    | none => none) 0

def ipv4Number? (cs : List Char) : Option Nat :=
  match cs with
  | [] => none
  | '0' :: 'x' :: ds => valueIn 16 ds
  | '0' :: 'X' :: ds => valueIn 16 ds
  | '0' :: d :: ds => valueIn 8 (d :: ds)
  | ds => valueIn 10 ds

def dottedParts (name : List Char) : List (List Char) :=
  let parts := name.splitOn '.'
  if parts.getLast? = some [] ∧ 1 < parts.length then parts.dropLast else parts

def endsInNumber (name : List Char) : Bool :=
  match (dottedParts name).getLast? with
  | none => false
  | some part => !part.isEmpty && part.all Char.isDigit || (ipv4Number? part).isSome

/-- The address with the given numbers: all but the last one fill a byte each. -/
def ipv4Value? (numbers : List Nat) : Option Nat :=
  let heads := numbers.dropLast
  let last := numbers.getLastD 0
  if 4 < numbers.length || heads.any (255 < ·) || Nat.pow 256 (4 - heads.length) ≤ last then none
  else some (heads.foldl (fun n h => n * 256 + h) 0 * Nat.pow 256 (4 - heads.length) + last)

def parseIpv4 (name : List Char) : Except ParseError Host :=
  match ((dottedParts name).mapM ipv4Number?).bind ipv4Value? with
  | some n => .ok (.ipv4 (UInt32.ofNat n))
  | none => .error .invalidIpv4

def renderIpv4 (address : UInt32) : List Char :=
  let n := address.toNat
  ['.'].intercalate <| [n >>> 24, (n >>> 16) % 256, (n >>> 8) % 256, n % 256].map Decimal.digits

def ipv6Piece? (cs : List Char) : Option UInt16 :=
  if cs.isEmpty || 4 < cs.length then none else (valueIn 16 cs).map UInt16.ofNat

def byte? (cs : List Char) : Option Nat :=
  if cs.isEmpty || (cs.head? = some '0' && 1 < cs.length) then none
  else match valueIn 10 cs with
    | some n => if n < 256 then some n else none
    | none => none

def embeddedPieces? (cs : List Char) : Option (List UInt16) :=
  match (cs.splitOn '.').mapM byte? with
  | some [a, b, c, d] => some [UInt16.ofNat (a * 256 + b), UInt16.ofNat (c * 256 + d)]
  | _ => none

/-- The pieces of one half of an IPv6 address; at its end, an IPv4 address may stand for two pieces. -/
def ipv6Pieces? : List (List Char) → Option (List UInt16)
  | [] => some []
  | [cs] =>
    match ipv6Piece? cs with
    | some p => some [p]
    | none => embeddedPieces? cs
  | cs :: rest =>
    match ipv6Piece? cs, ipv6Pieces? rest with
    | some p, some ps => some (p :: ps)
    | _, _ => none

def splitAtGap : List Char → Option (List Char × List Char)
  | ':' :: ':' :: cs => some ([], cs)
  | c :: cs => (splitAtGap cs).map fun (a, b) => (c :: a, b)
  | [] => none

def halfParts (cs : List Char) : List (List Char) :=
  if cs.isEmpty then [] else cs.splitOn ':'

def parseIpv6 (cs : List Char) : Except ParseError Host :=
  match splitAtGap cs with
  | none =>
    match ipv6Pieces? (halfParts cs) with
    | some ps => if ps.length = 8 then .ok (.ipv6 ps) else .error .invalidIpv6
    | none => .error .invalidIpv6
  | some (left, right) =>
    match (halfParts left).mapM ipv6Piece?, ipv6Pieces? (halfParts right) with
    | some ps, some qs =>
      if ps.length + qs.length ≤ 7 then
        .ok (.ipv6 (ps ++ List.replicate (8 - ps.length - qs.length) 0 ++ qs))
      else .error .invalidIpv6
    | _, _ => .error .invalidIpv6

def leadingZeros (ps : List UInt16) : Nat :=
  (ps.takeWhile (· = 0)).length

/-- The first of the longest runs of at least two zeros: where it starts and how long it is. -/
def longestZeros (ps : List UInt16) : Option (Nat × Nat) :=
  (List.range ps.length).foldl (fun best i =>
    let n := leadingZeros (ps.drop i)
    match best with
    | none => if 2 ≤ n then some (i, n) else none
    | some (_, m) => if m < n then some (i, n) else best) none

def renderPieces (ps : List UInt16) : List Char :=
  [':'].intercalate (ps.map fun p => Text.hexDigits p.toNat)

def renderIpv6 (ps : List UInt16) : List Char :=
  match longestZeros ps with
  | none => '[' :: renderPieces ps ++ [']']
  | some (i, n) => '[' :: renderPieces (ps.take i) ++ ':' :: ':' :: renderPieces (ps.drop (i + n)) ++ [']']

def render : Host → List Char
  | .domain name => name
  | .ipv4 address => renderIpv4 address
  | .ipv6 pieces => renderIpv6 pieces

def bracketed? (cs : List Char) : Option (Except ParseError Host) :=
  match cs with
  | '[' :: rest =>
    if rest.getLast? = some ']' then some (parseIpv6 rest.dropLast) else some (.error .invalidIpv6)
  | _ => none

def textOfBytes? (bytes : List UInt8) : Option (List Char) :=
  (String.fromUTF8? bytes.toByteArray).map String.toList

def parse (cs : List Char) : Except ParseError Host :=
  match bracketed? cs with
  | some r => r
  | none =>
    match (textOfBytes? (decodeBytes cs)).bind domainToAscii with
    | none => .error .invalidDomain
    | some [] => .error .emptyHost
    | some name => if endsInNumber name then parseIpv4 name else .ok (.domain name)

def isForbidden (c : Char) : Bool :=
  ['\x00', '\t', '\n', '\r', ' ', '#', '/', ':', '<', '>', '?', '@', '[', '\\', ']', '^', '|'].contains c

def parseOther (cs : List Char) : Except ParseError Host :=
  match bracketed? cs with
  | some r => r
  | none =>
    if cs.any isForbidden then .error .invalidHostChar
    else .ok (.domain (encode isControl cs))

end Host

end PaddleLink
