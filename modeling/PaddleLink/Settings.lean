import PaddleLink.Json.Record
import PaddleLink.Toml.Document
import PaddleLink.Url.Parser

namespace PaddleLink

structure RetryPolicy where
  attempts : Nat
  interval : Nat
  deriving DecidableEq, Repr

def RetryPolicy.standard : RetryPolicy :=
  ⟨10, 100⟩

structure Settings where
  httpBase : String
  wsBase : String
  connectAttempts : Nat
  connectInterval : Nat
  /-- The time between heartbeats, and how old a snapshot may be to stand for one. -/
  heartbeatInterval : Nat
  setupDelay : Nat
  requestTimeout : Nat
  frameInterval : Nat
  deriving DecidableEq, Repr

namespace Settings

def standard : Settings where
  httpBase := "http://localhost:8080"
  wsBase := "ws://localhost:8080"
  connectAttempts := 10
  connectInterval := 100
  heartbeatInterval := 1000
  setupDelay := 2000
  requestTimeout := 5000
  frameInterval := 16

def standardPath : String :=
  "config/client.toml"

/-- The settings with the standard periods in place of those that are zero, which would never end. -/
def validated (s : Settings) : Settings :=
  { s with
    heartbeatInterval := if s.heartbeatInterval = 0 then standard.heartbeatInterval else s.heartbeatInterval
    frameInterval := if s.frameInterval = 0 then standard.frameInterval else s.frameInterval }

def retry (s : Settings) : RetryPolicy :=
  ⟨s.connectAttempts, s.connectInterval⟩

def httpUrl (s : Settings) : Except Url.ParseError Url :=
  Url.parse s.httpBase

def wsUrl (s : Settings) : Except Url.ParseError Url :=
  Url.parse s.wsBase

def textOf (es : Toml.Entries) (key : String) (absent : String) : Option String :=
  match Toml.lookup? key es with
  | none => some absent
  | some (.value (.string s)) => some s
  | some _ => none

def naturalOf (es : Toml.Entries) (bound : Nat) (key : String) (absent : Nat) : Option Nat :=
  match Toml.lookup? key es with
  | none => some absent
  | some (.value (.integer i)) => if 0 ≤ i ∧ i < bound then some i.toNat else none
  | some _ => none

def ofEntries? (es : Toml.Entries) : Option Settings := do
  return {
    httpBase := ← textOf es "http_base" standard.httpBase
    wsBase := ← textOf es "ws_base" standard.wsBase
    connectAttempts := ← naturalOf es UInt32.size "connect_attempts" standard.connectAttempts
    connectInterval := ← naturalOf es UInt64.size "connect_interval_ms" standard.connectInterval
    heartbeatInterval := ← naturalOf es UInt64.size "heartbeat_interval_ms" standard.heartbeatInterval
    setupDelay := ← naturalOf es UInt64.size "local_setup_delay_ms" standard.setupDelay
    requestTimeout := ← naturalOf es UInt64.size "request_timeout_ms" standard.requestTimeout
    frameInterval := ← naturalOf es UInt64.size "frame_interval_ms" standard.frameInterval }

def ofText? (s : String) : Option Settings :=
  ((Toml.read? s.toList).bind ofEntries?).map validated

def load (contents : Option (List UInt8)) : Settings :=
  match (contents.bind fun bytes => String.fromUTF8? bytes.toByteArray).bind ofText? with
  | some s => s
  | none => standard

end Settings

end PaddleLink
