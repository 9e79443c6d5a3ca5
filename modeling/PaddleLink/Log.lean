namespace PaddleLink

inductive Level where
  | error
  | warn
  | info
  deriving DecidableEq, Repr

def Level.name : Level → String
  | .error => "ERROR"
  | .warn => "WARN"
  | .info => "INFO"

structure LogRecord where
  level : Level
  text : String
  deriving DecidableEq, Repr

/-- The least level that is shown; none when nothing is. -/
abbrev Verbosity := Option Level

def Level.rank : Level → Nat
  | .error => 0
  | .warn => 1
  | .info => 2

def LogRecord.isShown (r : LogRecord) (v : Verbosity) : Bool :=
  match v with
  | none => false
  | some level => r.level.rank ≤ level.rank

end PaddleLink
