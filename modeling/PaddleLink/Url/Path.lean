import PaddleLink.Url.Percent

namespace PaddleLink.Url

def isBreak (c : Char) : Bool :=
  c = '\t' || c = '\n' || c = '\r'

def withoutBreaks (cs : List Char) : List Char :=
  cs.filter fun c => !isBreak c

def isSingleDot (s : List Char) : Bool :=
  s = ['.'] || s.map Char.toLower = ['%', '2', 'e']

def isDoubleDot (s : List Char) : Bool :=
  [['.', '.'], ['.', '%', '2', 'e'], ['%', '2', 'e', '.'], ['%', '2', 'e', '%', '2', 'e']].contains
    (s.map Char.toLower)

def isDrive : List Char → Bool
  | [c, mark] => c.isAlpha && (mark = ':' || mark = '|')
  | _ => false

def startsWithDrive (s : List Char) : Bool :=
  isDrive (s.take 2) && (s.drop 2).head?.all (· = '\\')

/-- Whether a break separates the letter and colon of a drive from the rest of its segment. -/
def isDriveBroken (raw : List Char) : Bool :=
  match raw.dropWhile isBreak with
  | c :: cs =>
    match cs.dropWhile isBreak with
    | ':' :: b :: rest => c.isAlpha && isBreak b && rest.any fun c => !isBreak c
    | _ => false
  | [] => false

def parent (ss : List (List Char)) : List (List Char) :=
  if ss.getLast?.any startsWithDrive then ss else ss.dropLast

structure PathReading where
  segments : List (List Char)
  hasDrive : Bool
  deriving DecidableEq, Repr

namespace PathReading

def start : PathReading :=
  ⟨[], false⟩

def add (r : PathReading) (ss : List (List Char)) : PathReading :=
  { r with segments := r.segments ++ ss }

/-- Reads a segment that is no dots. The drive at the front of a file's path is written with a colon; what a
break separates from a drive there is a segment of its own. -/
def keep (file : Bool) (r : PathReading) (raw : List Char) : PathReading :=
  let s := withoutBreaks raw
  if file && r.segments.isEmpty && isDrive s then ⟨[s.take 1 ++ [':']], true⟩
  else if file && r.segments.isEmpty && isDriveBroken raw then
    r.add [s.take 2, encode isPathSpecial (s.drop 2)]
  else r.add [encode isPathSpecial s]

def read (file : Bool) (r : PathReading) (raw : List Char) (last : Bool) : PathReading :=
  let s := withoutBreaks raw
  let tail := if last then [[]] else []
  if isDoubleDot s then { r with segments := parent r.segments ++ tail }
  else if isSingleDot s then r.add tail
  else r.keep file raw

def readAll (file : Bool) (r : PathReading) : List (List Char) → PathReading
  | [] => r
  | [s] => r.read file s true
  | s :: ss => readAll file (r.read file s false) ss

end PathReading

/-- The segments of a text. In a scheme with a fixed form, a backslash separates them too. -/
def splitPath (special : Bool) (cs : List Char) : List (List Char) :=
  (if special then cs.map fun c => if c = '\\' then '/' else c else cs).splitOn '/'

def pathSegments (special : Bool) (cs : List Char) : List (List Char) :=
  (PathReading.start.readAll false (splitPath special cs)).segments

def readFilePath (cs : List Char) : PathReading :=
  let r := PathReading.start.readAll true (splitPath true cs)
  match r.segments.dropWhile List.isEmpty with
  | [] => { r with segments := [[]] }
  | ss => { r with segments := ss }

end PaddleLink.Url
