import PaddleLink.Toml.Literal

namespace PaddleLink.Toml

inductive Origin where
  | path
  | header
  | dotted
  deriving DecidableEq, Repr

/-- What a key stands for. Arrays and tables inside of values cannot grow, so they are values. -/
inductive Entry where
  | value (v : Scalar)
  | table (origin : Origin) (entries : List (String × Entry))
  | tables (last : List (String × Entry)) (before : List (List (String × Entry)))

abbrev Entries := List (String × Entry)

def lookup? (key : String) (es : Entries) : Option Entry :=
  es.lookup key

def setEntry (key : String) (e : Entry) : Entries → Entries
  | [] => [(key, e)]
  | (k, old) :: es => if k = key then (k, e) :: es else (k, old) :: setEntry key e es

/-- Sets the value of a key with dots. `fits` says whether the table that it begins in can have values here:
the one of the last header can, and one that came into being by a key with dots. On the way to its table, a key
may pass through others, but not through one with a header of its own. -/
def setValue (v : Scalar) (fits : Bool) : (keys : List String) → Entries → Option Entries
  | [], _ => none
  | [key], es => if fits && (lookup? key es).isNone then some (setEntry key (.value v) es) else none
  | key :: keys, es =>
    match lookup? key es with
    | none => (setValue v true keys []).map fun inner => setEntry key (.table .dotted inner) es
    | some (.table .dotted inner) =>
      (setValue v true keys inner).map fun inner => setEntry key (.table .dotted inner) es
    | some (.table .path inner) =>
      (setValue v false keys inner).map fun inner => setEntry key (.table .path inner) es
    | some (.tables last before) =>
      (setValue v false keys last).map fun last => setEntry key (.tables last before) es
    | some (.table .header _) | some (.value _) => none

def within (f : Entries → Option Entries) : (path : List String) → Entries → Option Entries
  | [], es => f es
  | key :: path, es =>
    match lookup? key es with
    | none => (within f path []).map fun inner => setEntry key (.table .path inner) es
    | some (.table origin inner) =>
      (within f path inner).map fun inner => setEntry key (.table origin inner) es
    | some (.tables last before) =>
      (within f path last).map fun last => setEntry key (.tables last before) es
    | some (.value _) => none

def openTable (key : String) (es : Entries) : Option Entries :=
  match lookup? key es with
  | none => some (setEntry key (.table .header []) es)
  | some (.table .path inner) => some (setEntry key (.table .header inner) es)
  | some _ => none

def openNext (key : String) (es : Entries) : Option Entries :=
  match lookup? key es with
  | none => some (setEntry key (.tables [] []) es)
  | some (.tables last before) => some (setEntry key (.tables [] (last :: before)) es)
  | some _ => none

end PaddleLink.Toml
