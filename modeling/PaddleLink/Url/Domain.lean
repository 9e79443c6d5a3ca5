import PaddleLink.Text.Normal
import PaddleLink.Url.DomainMapping
import PaddleLink.Url.Label
import PaddleLink.Url.Punycode

namespace PaddleLink.Url

def mapDomain? (domain : List Char) : Option (List Char) :=
  (domain.mapM mapDomainChar?).map fun texts => Text.normalize texts.flatten

def punycodeMark : List Char :=
  ['x', 'n', '-', '-']

def maxPunycodeLength : Nat :=
  2000

/-- A mapped label, read if it is in punycode; none if it cannot be read or would not be written that way. -/
def readLabel? (label : List Char) : Option (List Char) :=
  if label.take 4 ≠ punycodeMark then some label
  else
    let digits := label.drop 4
    if !isAscii digits || maxPunycodeLength < digits.length then none
    else match unpunycode? digits with
      | none => none
      | some text => if isAscii text || mapDomain? text ≠ some text then none else some text

def labelToAscii (label : List Char) : List Char :=
  if isAscii label then label else punycodeMark ++ punycode label

/-- Whether labels form a domain. Once one has a direction from right to left, each keeps to its own. -/
def isDomain (labels : List (List Char)) : Bool :=
  labels.all isLabel && (!labels.any hasRight || labels.all keepsDirection)

def domainToAscii (domain : List Char) : Option (List Char) := do
  let mapped ← mapDomain? domain
  let labels ← (mapped.splitOn '.').mapM readLabel?
  if isDomain labels then some (['.'].intercalate (labels.map labelToAscii)) else none

end PaddleLink.Url
