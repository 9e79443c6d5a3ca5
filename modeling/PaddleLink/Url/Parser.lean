import PaddleLink.Url.Basic
import PaddleLink.Url.Path

/-!
Reading URLs. White space around the text and tabs and ends of lines inside of it are passed over. What
follows the scheme depends on it: schemes with a fixed form have a host in any case, files have their own
rule, and other URLs have a host only after two slashes.
-/

namespace PaddleLink.Url

def isSchemeChar (c : Char) : Bool :=
  c.isAlphanum || c = '+' || c = '-' || c = '.'

def endsAuthority (special : Bool) (c : Char) : Bool :=
  c = '/' || c = '?' || c = '#' || (special && c = '\\')

def splitAtFirst (c : Char) (cs : List Char) : List Char × Option (List Char) :=
  match cs.dropWhile (· ≠ c) with
  | [] => (cs, none)
  | _ :: rest => (cs.takeWhile (· ≠ c), some rest)

def trim (cs : List Char) : List Char :=
  let isMargin (c : Char) : Bool := c.toNat ≤ 0x20
  ((cs.dropWhile isMargin).reverse.dropWhile isMargin).reverse

def splitScheme? (cs : List Char) : Option (List Char × List Char) :=
  match splitAtFirst ':' cs with
  | (_, none) => none
  | (front, some rest) =>
    let scheme := withoutBreaks front
    if scheme.head?.any Char.isAlpha && scheme.all isSchemeChar then some (scheme.map Char.toLower, rest)
    else none

def endsPath (c : Char) : Bool :=
  c = '?' || c = '#'

def parseTail (scheme : List Char) (cs : List Char) : Option (List Char) × Option (List Char) :=
  let (before, fragment) := splitAtFirst '#' cs
  let querySpecial := if isSpecial scheme then isSpecialQuerySpecial else isQuerySpecial
  let query := match before with
    | '?' :: query => some (encode querySpecial query)
    | _ => none
  (query, fragment.map (encode isFragmentSpecial))

/-- The URL whose path, query and fragment are given by `cs`, of which the first slash is left out. -/
def withSegments (scheme : List Char) (authority : Option Authority) (cs : List Char) : Url :=
  let (query, fragment) := parseTail scheme (cs.dropWhile fun c => !endsPath c)
  let ss := pathSegments (isSpecial scheme) (cs.takeWhile fun c => !endsPath c)
  ⟨scheme, authority, if authority.isSome then .segments false ss else .rooted ss, query, fragment⟩

def withRest (scheme : List Char) (authority : Authority) (cs : List Char) : Url :=
  match cs with
  | '/' :: rest => withSegments scheme (some authority) rest
  | c :: rest =>
    if isSpecial scheme then
      withSegments scheme (some authority) (if c = '\\' then rest else cs)
    else if endsPath c then
      let (query, fragment) := parseTail scheme cs
      ⟨scheme, some authority, .segments false [], query, fragment⟩
    else withSegments scheme (some authority) cs
  | [] => ⟨scheme, some authority, .segments false (if isSpecial scheme then [[]] else []), none, none⟩

def parseUser (cs : List Char) : List Char × List Char :=
  let (name, password) := splitAtFirst ':' cs
  (encode isUserinfoSpecial name, encode isUserinfoSpecial (password.getD []))

def splitUser (cs : List Char) : Option (List Char) × List Char :=
  let host := (cs.reverse.takeWhile (· ≠ '@')).reverse
  if host.length = cs.length then (none, cs) else (some (cs.take (cs.length - host.length - 1)), host)

def splitHost (inside : Bool) : List Char → List Char × List Char
  | [] => ([], [])
  | c :: cs =>
    if c = ':' ∧ ¬ inside then ([], c :: cs)
    else
      let r := splitHost (if c = '[' then true else if c = ']' then false else inside) cs
      (c :: r.1, r.2)

/-- A port behind its colon, and the rest of the text, which begins with a backslash if there is any. The
port may be missing. -/
def parsePort (scheme : List Char) (cs : List Char) : Except ParseError (Option Nat × List Char) :=
  let digits := cs.takeWhile Char.isDigit
  let rest := cs.dropWhile Char.isDigit
  match Host.valueIn 10 digits with
  | none => .error .invalidPort
  | some n =>
    if 65535 < n || !rest.head?.all (· = '\\') then .error .invalidPort
    else .ok (if digits.isEmpty || specialPorts.lookup scheme = some n then none else some n, rest)

def parsePortPart (scheme : List Char) : List Char → Except ParseError (Option Nat × List Char)
  | ':' :: cs => parsePort scheme cs
  | _ => .ok (none, [])

def parseAuthority (scheme : List Char) (cs : List Char) : Except ParseError (Authority × List Char) := do
  let (user, rest) := splitUser cs
  let (username, password) := parseUser (user.getD [])
  let (host, port) := splitHost false rest
  if host.isEmpty && (isSpecial scheme || !port.isEmpty || !username.isEmpty || !password.isEmpty) then
    throw .emptyHost
  let host ← if isSpecial scheme then Host.parse host else Host.parseOther host
  let (port, rest) ← parsePortPart scheme port
  return (⟨username, password, host, port⟩, rest)

def parseWithAuthority (scheme : List Char) (cs : List Char) : Except ParseError Url := do
  let before := cs.takeWhile fun c => !endsAuthority (isSpecial scheme) c
  let after := cs.dropWhile fun c => !endsAuthority (isSpecial scheme) c
  if before = ['@'] ∧ ¬ after.isEmpty then throw .emptyHost
  let (authority, rest) ← parseAuthority scheme before
  return withRest scheme authority (rest ++ after)

def noHost : Authority :=
  ⟨[], [], .domain [], none⟩

def parseFileHost (cs : List Char) : Except ParseError Authority :=
  if cs.isEmpty then .ok noHost
  else (Host.parse cs).map fun host =>
    if host = .domain "localhost".toList then noHost else ⟨[], [], host, none⟩

def isSlash (c : Char) : Bool :=
  c = '/' || c = '\\'

def afterSlash? (cs : List Char) : Option (List Char) :=
  match cs.dropWhile isBreak with
  | c :: rest => if isSlash c then some rest else none
  | [] => none

/-- The URL of a file whose path, query and fragment are given by `cs`. A drive takes the place of the
host. -/
def withFilePath (authority : Authority) (cs : List Char) : Url :=
  let (query, fragment) := parseTail fileScheme (withoutBreaks (cs.dropWhile fun c => !endsPath c))
  let path := readFilePath (cs.takeWhile fun c => !endsPath c)
  ⟨fileScheme, some (if path.hasDrive then noHost else authority), .segments false path.segments, query,
    fragment⟩

def parseFileAuthority (cs : List Char) : Except ParseError Url :=
  let host := withoutBreaks (cs.takeWhile fun c => !endsAuthority true c)
  let rest := cs.dropWhile fun c => !endsAuthority true c
  if isDrive host then .ok (withFilePath noHost cs)
  else (parseFileHost host).map fun authority =>
    withFilePath authority (if authority = noHost then rest else (afterSlash? rest).getD rest)

def parseFile (cs : List Char) : Except ParseError Url :=
  match afterSlash? cs with
  | none => .ok (withFilePath noHost cs)
  | some rest =>
    match afterSlash? rest with
    | none => .ok (withFilePath noHost rest)
    | some rest => parseFileAuthority rest

def parseRest (scheme : List Char) (rest : List Char) : Except ParseError Url :=
  if isSpecial scheme then parseWithAuthority scheme (rest.dropWhile isSlash)
  else
    match rest with
    | '/' :: '/' :: rest => parseWithAuthority scheme rest
    | '/' :: rest => .ok (withSegments scheme none rest)
    | rest =>
      let (query, fragment) := parseTail scheme (rest.dropWhile fun c => !endsPath c)
      .ok ⟨scheme, none, .plain (encode isControl (rest.takeWhile fun c => !endsPath c)), query, fragment⟩

def parse (s : String) : Except ParseError Url :=
  match splitScheme? (trim s.toList) with
  | none => .error .relativeWithoutBase
  | some (scheme, rest) =>
    if scheme = fileScheme then parseFile rest else parseRest scheme (withoutBreaks rest)

end PaddleLink.Url
