import PaddleLink.Json.Decoder

/-!
The place of a problem in a text. Whatever follows it, a text has the problem as soon as it is read that far;
so the place is the end of the shortest beginning that has the problem. Kinds of problems differ in whether
the character at the end counts.
-/

namespace PaddleLink.Json

structure Place where
  line : Nat
  column : Nat
  deriving DecidableEq, Repr

namespace Place

def size (cs : List Char) : Nat :=
  (String.ofList cs).utf8ByteSize

def behind (cs : List Char) : Place :=
  ⟨1 + cs.count '\n', size (cs.reverse.takeWhile (· ≠ '\n'))⟩

def within (bytes : Nat) (cs : List Char) : Place :=
  match cs.getLast? with
  | some c =>
    if c.utf8Size = 1 then behind cs
    else { behind cs.dropLast with column := (behind cs.dropLast).column + bytes }
  | none => behind cs

def behindEscape (cs : List Char) : Place :=
  match (cs.reverse.takeWhile (· ≠ '\\')).reverse with
  | 'u' :: digits => within (4 - size digits.dropLast) cs
  | _ => within 1 cs

def describe (p : Place) : String :=
  "line " ++ toString p.line ++ " column " ++ toString p.column

end Place

def Problem.isNumeric : Problem → Bool
  | .fault .range => true
  | .invalidType (.integer _) _ => true
  | .invalidType (.float _) _ => true
  | .invalidValue _ _ => true
  | _ => false

def isNumeral (c : Char) : Bool :=
  c.isDigit || ['.', 'e', 'E', '+', '-'].contains c

def throughNumber (front rest : List Char) : List Char :=
  let begun := (front.reverse.takeWhile isNumeral).reverse
  match scanNumber (begun ++ rest) with
  | .ok (_, after) => front ++ rest.take (rest.length - after.length)
  | .error _ => front

def closing (cs : List Char) : List Char :=
  cs.take 1 |>.filter (· = '}')

def Decoder.hasProblem {α : Type} (d : Decoder α) (p : Problem) (cs : List Char) : Bool :=
  match d.run (String.ofList cs) with
  | .error q => q.category == p.category && q.message == p.message
  | .ok _ => false

/-- Whether a decoder has the problem `p` with a text even if it goes on. A number that is wrong only for its
end may go on with a digit. -/
def Decoder.keepsProblem {α : Type} (d : Decoder α) (p : Problem) (cs : List Char) : Bool :=
  d.hasProblem p cs && (p.isNumeric || d.hasProblem p (cs ++ ['1']))

def Decoder.splitAtProblem {α : Type} (d : Decoder α) (p : Problem) (cs : List Char) :
    List Char × List Char :=
  cs.splitAt (((List.range cs.length).find? fun n => d.keepsProblem p (cs.take n)).getD cs.length)

def Decoder.place {α : Type} (d : Decoder α) (p : Problem) (s : String) : Place :=
  let (front, rest) := d.splitAtProblem p s.toList
  if p.isNumeric then .behind (throughNumber front rest)
  else match p with
    | .invalidType .sequence _ | .invalidType .map _ => .behind front.dropLast
    | .duplicateField _ => .behind (front ++ rest.takeWhile isBlank ++ closing (rest.dropWhile isBlank))
    | .fault .surplus => .within 1 (front ++ rest.takeWhile isBlank ++ (rest.dropWhile isBlank).take 1)
    | .fault .escape => .behindEscape front
    | .fault f => if f.isEnd then .behind s.toList else .within 1 front
    | _ => .behind front

end PaddleLink.Json
