import PaddleLink.Text.CombiningClass
import PaddleLink.Text.Composition

/-!
The normal form of a text, in which texts that are written differently but are the same become equal: each
character is replaced by the sequence that it stands for, marks are put in order, and what can be composed is
composed again. Korean syllables are composed by calculation and all else by a table.
-/

namespace PaddleLink.Text

def firstSyllable : Nat := 0xAC00

def firstLead : Nat := 0x1100

def firstVowel : Nat := 0x1161

def beforeTrail : Nat := 0x11A7

def syllableLetters? (c : Char) : Option (List Char) :=
  let i := c.toNat - firstSyllable
  if c.toNat < firstSyllable || 19 * 21 * 28 ≤ i then none
  else
    let trail := if i % 28 = 0 then [] else [Char.ofNat (beforeTrail + i % 28)]
    some (Char.ofNat (firstLead + i / (21 * 28)) :: Char.ofNat (firstVowel + i / 28 % 21) :: trail)

def syllable? (a b : Char) : Option Char :=
  let lead := a.toNat - firstLead
  let vowel := b.toNat - firstVowel
  let plain := a.toNat - firstSyllable
  let trail := b.toNat - beforeTrail
  if firstLead ≤ a.toNat && lead < 19 && firstVowel ≤ b.toNat && vowel < 21 then
    some (Char.ofNat (firstSyllable + (lead * 21 + vowel) * 28))
  else if firstSyllable ≤ a.toNat && plain < 19 * 21 * 28 && plain % 28 == 0 && beforeTrail < b.toNat
      && trail < 28 then
    some (Char.ofNat (a.toNat + trail))
  else none

def decomposeChar : (depth : Nat) → Char → List Char
  | 0, c => [c]
  | depth + 1, c =>
    match (syllableLetters? c).or (replacements.lookup c) with
    | some cs => cs
    | none =>
      match composites.lookup c with
      | some cs => cs.flatMap (decomposeChar depth)
      | none => [c]

/-- The sequence that a character stands for. No composite has more than two others inside of it, and no
character before the first composite stands for a sequence. -/
def decompose (c : Char) : List Char :=
  if c.toNat < 0xC0 then [c] else decomposeChar 3 c

/-- Puts a character before an ordered text. A mark moves behind those of lower classes. -/
def insertMark (c : Char) : List Char → List Char
  | [] => [c]
  | d :: ds =>
    if 0 < combiningClass d ∧ combiningClass d < combiningClass c then d :: insertMark c ds else c :: d :: ds

def orderMarks (cs : List Char) : List Char :=
  cs.foldr insertMark []

def composite? (a b : Char) : Option Char :=
  (syllable? a b).or ((composites.find? fun (_, pair) => pair == [a, b]).map Prod.fst)

def isBlocked (marks : List Char) (c : Char) : Bool :=
  marks.getLast?.any fun m => combiningClass c ≤ combiningClass m

def composeFrom (first : Char) (marks : List Char) : List Char → List Char
  | [] => first :: marks
  | c :: cs =>
    match if isBlocked marks c then none else composite? first c with
    | some d => composeFrom d marks cs
    | none =>
      if combiningClass c = 0 then first :: marks ++ composeFrom c [] cs
      else composeFrom first (marks ++ [c]) cs

def compose : List Char → List Char
  | [] => []
  | c :: cs => composeFrom c [] cs

def normalize (cs : List Char) : List Char :=
  compose (orderMarks (cs.flatMap decompose))

end PaddleLink.Text
