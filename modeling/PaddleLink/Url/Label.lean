import PaddleLink.Text.BidiClass
import PaddleLink.Text.CombiningClass
import PaddleLink.Text.Joining
import PaddleLink.Url.Percent

namespace PaddleLink.Url

def isDomainForbidden (c : Char) : Bool :=
  isControl c || [' ', '#', '/', ':', '<', '>', '?', '@', '[', '\\', ']', '^', '|', '%'].contains c

def isAscii (label : List Char) : Bool :=
  label.all fun c => c.toNat < 0x80

def nonJoiner : Char := '\u200c'

def joiner : Char := '\u200d'

/-- Whether a joiner can stand behind the characters of `before`, the nearest of which comes first, and before
those of `after`: behind a virama, and a non-joiner also between two letters that would be joined. -/
def joinerFits (c : Char) (before after : List Char) : Bool :=
  before.head?.any (fun b => Text.combiningClass b = Text.viramaClass)
    || c = nonJoiner && Text.firstOpaque Text.joinsNext before && Text.firstOpaque Text.joinsPrevious after

def joinersFit (before : List Char) : List Char → Bool
  | [] => true
  | c :: cs => (!(c = nonJoiner || c = joiner) || joinerFits c before cs) && joinersFit (c :: before) cs

def hasRight (label : List Char) : Bool :=
  label.any fun c => [Text.BidiClass.right, .arabicNumber].contains (Text.bidiClass c)

/-- Whether a label keeps to one direction: it begins with a letter, has none of the other direction and ends,
but for marks, in a letter or number. A label from right to left has numbers of one kind only. -/
def keepsDirection (label : List Char) : Bool :=
  let ds := ((label.map Text.bidiClass).reverse.dropWhile (· = .mark)).reverse
  match ds.head? with
  | none => label.isEmpty
  | some .left => !ds.contains .right && !ds.contains .arabicNumber && ds.getLast? != some .neutral
  | some .right =>
    !ds.contains .left && !(ds.contains .europeanNumber && ds.contains .arabicNumber)
      && ds.getLast? != some .neutral
  | some _ => false

def maxLabelLength : Nat :=
  1000

def isLabel (label : List Char) : Bool :=
  !label.any isDomainForbidden && !label.head?.any Text.isMark && joinersFit [] label
    && (isAscii label || label.length ≤ maxLabelLength)

end PaddleLink.Url
