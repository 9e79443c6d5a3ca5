import PaddleLink.Program

/-!
The command line. Without a network of its own the program plays solo sessions; for every other one the
server counts as one that cannot be reached.
-/

namespace PaddleLink.Program

def readFile (path : String) : IO (Except FileError String) := do
  try
    match String.fromUTF8? (← IO.FS.readBinFile path) with
    | some text => return .ok text
    | none => return .error .notText
  catch
    | .noFileOrDirectory .. => return .error .notFound
    | _ => return .error .directory

def report (v : Verbosity) (records : List LogRecord) : IO Unit := do
  for r in records do
    if r.isShown v then IO.println (r.level.name ++ " pong_sync: " ++ r.text)

def fail (f : Failure) : IO UInt32 := do
  IO.eprint f.text
  return 1

/-- Plays frame by frame until play ends; each frame is one of the loop of play. -/
partial def playOn (v : Verbosity) (limit : Option Nat) (p : Play Field) (now : Nat) : IO Nat := do
  let outcome := Play.runFrames Field.simulation limit 1 p now []
  let p := outcome.play
  report v p.records
  if outcome.ending.isSome then return p.frames
  IO.sleep (outcome.time - (← IO.monoMsNow)).toUInt32
  let now ← IO.monoMsNow
  playOn v limit { p with records := [], client := p.client.pass outcome.time now } now

def playReady (v : Verbosity) (r : Ready) : IO UInt32 := do
  let s := r.begin (← IO.monoMsNow) r.unreachable ⟨.silent, false⟩
  IO.sleep (duration s.acts).toUInt32
  let now ← IO.monoMsNow
  match r.enter s now with
  | .error f => fail f
  | .ok (record, play) =>
    report v [record]
    let frames ← playOn v r.limit play now
    report v [stopped frames]
    return 0

end PaddleLink.Program

open PaddleLink PaddleLink.Program in
def main (args : List String) : IO UInt32 := do
  let v := Verbosity.ofSetting (← IO.getEnv "PONG_SYNC_LOG")
  let contents ← (files args).mapM fun path => return (path, ← readFile path)
  let (records, ready) := setUp args fun path => (contents.lookup path).getD (.error .notFound)
  report v records
  match ready with
  | .error f => fail f
  | .ok r => playReady v r
