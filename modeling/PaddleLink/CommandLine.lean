import PaddleLink.Game.Start
import PaddleLink.Log

namespace PaddleLink

inductive NumberError where
  | empty
  | invalidDigit
  | tooLarge
  deriving DecidableEq, Repr

def NumberError.message : NumberError → String
  | .empty => "cannot parse integer from empty string"
  | .invalidDigit => "invalid digit found in string"
  | .tooLarge => "number too large to fit in target type"

def appendDigits (n : Nat) : List Char → Except NumberError Nat
  | [] => .ok n
  | c :: cs =>
    if ¬ c.isDigit then .error .invalidDigit
    else if UInt64.size ≤ n * 10 + (c.toNat - '0'.toNat) then .error .tooLarge
    else appendDigits (n * 10 + (c.toNat - '0'.toNat)) cs

def parseNatural (s : String) : Except NumberError Nat :=
  match s.toList with
  | [] => .error .empty
  | ['+'] => .error .invalidDigit
  | '+' :: cs => appendDigits 0 cs
  | cs => appendDigits 0 cs

structure Options where
  start : Start
  config : Option String
  keyScript : Option String
  maxFrames : Option Nat
  deriving DecidableEq, Repr

def Options.standard : Options :=
  ⟨.solo, none, none, none⟩

structure MissingId where
  command : String
  deriving DecidableEq, Repr

def MissingId.message (e : MissingId) : String :=
  e.command ++ " requires a session id"

/-- The options after a frame limit, and what there is to say about it. -/
def Options.limit (o : Options) (value : String) : Options × List LogRecord :=
  match parseNatural value with
  | .ok n => ({ o with maxFrames := some n }, [])
  | .error e =>
    (o, [⟨.error, "--max-frames must be an integer err=" ++ e.message ++ " value=" ++ value⟩])

def withRecords {α : Type} (records : List LogRecord) (r : List LogRecord × α) : List LogRecord × α :=
  (records ++ r.1, r.2)

/-- Reads the rest of a command line, with `o` what was asked for so far. -/
def Options.read (o : Options) : List String → List LogRecord × Except MissingId Options
  | [] => ([], .ok o)
  | "local" :: rest => { o with start := .solo }.read rest
  | "host" :: rest => { o with start := .host }.read rest
  | ["join"] => ([], .error ⟨"join"⟩)
  | "join" :: id :: rest => { o with start := .join ⟨id⟩ }.read rest
  | ["watch"] => ([], .error ⟨"watch"⟩)
  | "watch" :: id :: rest => { o with start := .watch ⟨id⟩ }.read rest
  | ["--config"] => ([⟨.error, "--config requires a file path"⟩], .ok o)
  | "--config" :: path :: rest => { o with config := some path }.read rest
  | ["--key-script"] => ([⟨.error, "--key-script requires a file path"⟩], .ok o)
  | "--key-script" :: path :: rest => { o with keyScript := some path }.read rest
  | ["--max-frames"] => ([⟨.error, "--max-frames requires an integer"⟩], .ok o)
  | "--max-frames" :: value :: rest => withRecords (o.limit value).2 ((o.limit value).1.read rest)
  | other :: rest => withRecords [⟨.warn, "Ignoring unknown argument arg=" ++ other⟩] (o.read rest)

def readArguments (args : List String) : List LogRecord × Except MissingId Options :=
  Options.standard.read args

end PaddleLink
