import PaddleLink.CommandLine
import PaddleLink.Game.Field
import PaddleLink.Play.Loop

namespace PaddleLink

inductive FileError where
  | notFound
  | directory
  | notText
  deriving DecidableEq, Repr

def FileError.message : FileError → String
  | .notFound => "No such file or directory (os error 2)"
  | .directory => "Is a directory (os error 21)"
  | .notText => "stream did not contain valid UTF-8"

/-- Why the program fails, and what lies behind it, the nearest cause first. -/
structure Failure where
  context : String
  causes : List String
  deriving DecidableEq, Repr

namespace Failure

def indent (width : Nat) (s : String) : List Char :=
  s.toList.flatMap fun c => if c = '\n' then '\n' :: List.replicate width ' ' else [c]

def numbered (n : Nat) : List String → List Char
  | [] => []
  | cause :: causes =>
    let number := (toString n).toList
    List.replicate (5 - number.length) ' ' ++ number ++ ':' :: ' ' :: indent 7 cause ++
      '\n' :: numbered (n + 1) causes

def causeLines : List String → List Char
  | [] => []
  | [cause] => "\nCaused by:\n    ".toList ++ indent 4 cause ++ ['\n']
  | causes => "\nCaused by:\n".toList ++ numbered 0 causes

def text (f : Failure) : String :=
  String.ofList ("Error: ".toList ++ f.context.toList ++ '\n' :: causeLines f.causes)

end Failure

def Failure.ofSessionError (context : String) (e : SessionError) : Failure :=
  ⟨context, e.message :: e.causes⟩

def Verbosity.ofSetting : Option String → Verbosity
  | some "off" => none
  | some "pong_sync=error" | some "error" => some .error
  | some "pong_sync=info" | some "info" => some .info
  | _ => some .warn

namespace Program

def greeting : LogRecord :=
  ⟨.info, "Starting pong-sync v0.1.0"⟩

structure Ready where
  client : Client
  httpBase : Url
  start : Start
  script : Script
  limit : Option Nat

def readScript (path : String) (contents : Except FileError String) : Except Failure Script :=
  match contents with
  | .error e => .error ⟨"failed to read key script " ++ path, [e.message]⟩
  | .ok text =>
    match Script.ofText text with
    | .ok script => .ok script
    | .error e => .error ⟨"invalid key script " ++ path, [e.message]⟩

def connectable (s : Settings) : Except SessionError (Client × Url) :=
  match s.httpUrl with
  | .error e => .error (.invalidBase (s.httpBase ++ ": " ++ e.message))
  | .ok base => (Client.ofSettings s).map fun c => (c, base)

def prepare (o : Options) (s : Settings) (read : String → Except FileError String) : Except Failure Ready := do
  let script ← match o.keyScript with
    | some path => readScript path (read path)
    | none => .ok ⟨[]⟩
  match connectable s with
  | .ok (client, base) => .ok ⟨client, base, o.start, script, o.maxFrames⟩
  | .error e => .error (.ofSessionError "invalid client configuration" e)

def Ready.requestUrl? (r : Ready) : Option (Except SessionError Url) :=
  r.start.request?.map (Request.url · r.httpBase)

/-- The endpoint as a client sees it: a request whose URL cannot be used is not sent. -/
def Ready.endpoint (r : Ready) (e : Endpoint) : Endpoint :=
  match r.requestUrl? with
  | some (.error obstacle) => ⟨[.error obstacle], 0⟩
  | _ => e

def Ready.unreachable (r : Ready) : Endpoint :=
  match r.requestUrl? with
  | some (.ok url) => ⟨[.error (.unreachable url)], 0⟩
  | _ => ⟨[], 0⟩

def Ready.begin (r : Ready) (now : Nat) (e : Endpoint) (server : Server) : Started :=
  r.client.start now (r.endpoint e) server r.start

def Ready.failure (r : Ready) (e : SessionError) : Failure :=
  .ofSessionError ("failed to start " ++ r.start.describe ++ " session") e

def started (s : Session) : LogRecord :=
  ⟨.info, "Session " ++ s.id.text ++ " started as " ++ s.role.name⟩

def stopped (frames : Nat) : LogRecord :=
  ⟨.info, "Stopped after " ++ toString frames ++ " frames"⟩

def Ready.enter (r : Ready) (s : Started) (now : Nat) : Except Failure (LogRecord × Play Field) :=
  match s.result with
  | .error e => .error (r.failure e)
  | .ok session => .ok (started session, .start s.client .initial r.script now)

/-- The files that arguments ask for. A file of settings is always looked for. -/
def files (args : List String) : List String :=
  match (readArguments args).2 with
  | .error _ => []
  | .ok o => o.config.getD Settings.standardPath :: o.keyScript.toList

/-- What comes of arguments and files: the first records, and a program that is ready, or its failure. -/
def setUp (args : List String) (read : String → Except FileError String) :
    List LogRecord × Except Failure Ready :=
  let (records, options) := readArguments args
  (greeting :: records, match options with
    | .error missing => .error ⟨missing.message, []⟩
    | .ok o =>
      let config := (read (o.config.getD Settings.standardPath)).toOption
      prepare o (Settings.load (config.map fun s => s.toUTF8.toList)) read)

/-- Only the files that were asked for are looked at. -/
theorem setUp_congr {args : List String} {read read' : String → Except FileError String}
    (h : ∀ path ∈ files args, read path = read' path) : setUp args read = setUp args read' := by
  unfold files at h
  unfold setUp
  cases hoptions : readArguments args with
  | mk records options =>
    cases options with
    | error missing => rfl
    | ok o =>
      simp only [hoptions, List.mem_cons, forall_eq_or_imp] at h
      obtain ⟨hconfig, hscript⟩ := h
      simp only [hconfig]
      congr 1
      unfold prepare
      cases hpath : o.keyScript with
      | none => rfl
      | some path =>
        have hsame : read path = read' path := hscript path (by simp [hpath])
        simp only [hsame]

structure Report where
  records : List LogRecord
  failure : Option Failure

def Ready.play (r : Ready) (e : Endpoint) (server : Server) : Report :=
  let s := r.begin 0 e server
  match r.enter s (duration s.acts) with
  | .error f => ⟨[], some f⟩
  | .ok (record, play) =>
    let outcome := play.run Field.simulation r.limit []
    ⟨record :: outcome.play.records ++ [stopped outcome.play.frames], none⟩

def run (args : List String) (read : String → Except FileError String) (e : Endpoint) (server : Server) :
    Report :=
  let (records, ready) := setUp args read
  match ready with
  | .error f => ⟨records, some f⟩
  | .ok r =>
    let report := r.play e server
    { report with records := records ++ report.records }

end Program

end PaddleLink
