import PaddleLink.Url.Host

namespace PaddleLink

structure Authority where
  username : List Char
  password : List Char
  host : Host
  port : Option Nat
  deriving DecidableEq, Repr

inductive UrlPath where
  | plain (text : List Char)
  /-- Segments, each behind a slash. A mark in front of them keeps an empty first one from being taken for the
  slashes of an authority. -/
  | segments (marked : Bool) (ss : List (List Char))
  deriving DecidableEq, Repr

def Authority.render (a : Authority) : List Char :=
  let user :=
    if a.username.isEmpty && a.password.isEmpty then []
    else a.username ++ (if a.password.isEmpty then [] else ':' :: a.password) ++ ['@']
  let port := match a.port with
    | none => []
    | some p => ':' :: Decimal.digits p
  user ++ a.host.render ++ port

def UrlPath.rooted (ss : List (List Char)) : UrlPath :=
  .segments (1 < ss.length && ss.head? = some []) ss

def UrlPath.render : UrlPath → List Char
  | .plain text => text
  | .segments marked ss => (if marked then ['/', '.'] else []) ++ ss.flatMap ('/' :: ·)

structure Url where
  scheme : List Char
  authority : Option Authority
  path : UrlPath
  query : Option (List Char)
  fragment : Option (List Char)
  deriving DecidableEq, Repr

namespace Url

def specialPorts : List (List Char × Nat) :=
  [(['h', 't', 't', 'p'], 80), (['h', 't', 't', 'p', 's'], 443), (['w', 's'], 80),
    (['w', 's', 's'], 443), (['f', 't', 'p'], 21)]

def fileScheme : List Char :=
  ['f', 'i', 'l', 'e']

def isSpecial (scheme : List Char) : Bool :=
  scheme = fileScheme || (specialPorts.lookup scheme).isSome

def renderPart (mark : Char) : Option (List Char) → List Char
  | none => []
  | some cs => mark :: cs

def render (u : Url) : List Char :=
  let authority := match u.authority with
    | none => []
    | some a => '/' :: '/' :: a.render
  u.scheme ++ ':' :: authority ++ u.path.render ++ renderPart '?' u.query
    ++ renderPart '#' u.fragment

def toText (u : Url) : String :=
  String.ofList u.render

/-- Drops an empty segment at the end, unless it is the only one. -/
def dropEmptyLast (ss : List (List Char)) : List (List Char) :=
  if ss.getLast? = some [] ∧ 1 < ss.length then ss.dropLast else ss

/-- Adds a segment; a path of one empty segment is replaced. -/
def addSegment (ss : List (List Char)) (s : List Char) : List (List Char) :=
  if ss = [[]] then [s] else ss ++ [s]

/-- The URL with one more segment, given without special characters; none if the path has no segments. -/
def push? (u : Url) (segment : List Char) : Option Url :=
  match u.path with
  | .plain _ => none
  | .segments marked ss => some { u with path := .segments marked (addSegment (dropEmptyLast ss) segment) }

def withoutUser (u : Url) : Url :=
  { u with authority := u.authority.map fun a => { a with username := [], password := [] } }

def withForm (u : Url) (pairs : List (String × String)) : Url :=
  { u with query := some (formPairs pairs) }

end Url

end PaddleLink
