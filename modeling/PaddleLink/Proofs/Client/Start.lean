import PaddleLink.Proofs.Client.Parts
import PaddleLink.Proofs.Lobby.Start
import PaddleLink.Proofs.Transport.Connect

namespace PaddleLink

def NetworkSession.target (s : NetworkSession) : Target :=
  ⟨s.id, s.me.id, s.role⟩

namespace Client

/-- Two states of a client without a channel, between which nothing was queued. -/
structure Waited (c c' : Client) : Prop where
  held : c'.connections.held = none
  voices : c'.connections.voices = c.connections.voices
  inbound : c'.inbound = c.inbound
  pulse : c'.pulse = c.pulse
  attentive : c.Attentive → c'.Attentive

/-- What a start can come to. A channel that the client has given up on may have been seen by the server. -/
inductive StartEnd (c : Client) (endpoint : Endpoint) (s : Start) (c' : Client) : Prop where
  | busy (h : c.lobby.lifecycle ≠ .uninitialized) (same : c' = c)
  | failed (e : SessionError) (h : c.lobby.lifecycle = .uninitialized)
    (lobby : c'.lobby = { c.lobby with status := .failed e.message }) (waited : c.Waited c')
  | solo (h : c.lobby.lifecycle = .uninitialized) (request : s.request? = none)
    (lobby : c'.lobby = ⟨some .solo, .idle, .running⟩) (waited : c.Waited c')
  | opened (r : Request) (g : Grant) (k : Connection) (p : Pulse) (h : c.lobby.lifecycle = .uninitialized)
    (request : s.request? = some r) (answer : endpoint.answer = .ok g)
    (lobby : c'.lobby = ⟨some (.network (g.sessionAs r.role)), .idle, .running⟩)
    (held : c'.connections.held = some k) (target : k.link.target = (g.sessionAs r.role).target)
    (whole : k.link.Whole) (inbound : c'.inbound = some c'.connections.past.length)
    (pulse : c'.pulse = some p) (identity : p.session = g.session.id ∧ p.player = g.actor.id)
    (voices : c'.connections.voices = c.connections.voices ++ [⟨(g.sessionAs r.role).target, []⟩])
    (attentive : c.Attentive → c'.Attentive)
  | aborted (r : Request) (g : Grant) (e : SessionError) (h : c.lobby.lifecycle = .uninitialized)
    (request : s.request? = some r) (answer : endpoint.answer = .ok g)
    (lobby : c'.lobby = ⟨none, .failed e.message, .uninitialized⟩) (held : c'.connections.held = none)
    (inbound : c'.inbound = c.inbound) (pulse : c'.pulse = c.pulse)
    (voices : c'.connections.voices = c.connections.voices ∨
      c'.connections.voices = c.connections.voices ++ [⟨(g.sessionAs r.role).target, []⟩])
    (attentive : c.Attentive → c'.Attentive)

/-- Without a channel waiting lets the loops of past connections come to rest, and nothing else. -/
theorem waited_passDuring (c : Client) (now : Nat) (acts : List Act) (h : c.connections.held = none) :
    c.Waited (c.passDuring now acts) := by
  unfold passDuring
  split
  · exact ⟨h, rfl, rfl, rfl, id⟩
  · have hsettled : (c.settle now).connections.held = none := by
      simp [settle, Connections.settle, Connections.mapAll, h]
    unfold pass
    simp only
    split
    · rename_i hk
      rw [hsettled] at hk
      cases hk
    · exact ⟨hsettled, Connections.voices_settle _ now, rfl, rfl, fun hc => hc.of_same rfl rfl rfl⟩

variable {c : Client}

theorem Waited.perform {c' : Client} (h : c.Waited c') (acts : List Act) : c.Waited (c'.perform acts) :=
  ⟨h.held, h.voices, h.inbound, h.pulse, fun hc => (h.attentive hc).of_same rfl rfl rfl⟩

theorem Waited.refresh {c' : Client} (h : c.Waited c') : c.Waited c'.refresh :=
  ⟨h.held, h.voices, h.inbound, h.pulse, fun hc => (h.attentive hc).of_same rfl rfl rfl⟩

theorem startEnd_of_granted (endpoint : Endpoint) (server : Server) (s : Start) (now : Nat) (acts : List Act)
    (r : Request) (g : Grant) (hidle : c.lobby.lifecycle = .uninitialized) (hheld : c.connections.held = none)
    (hr : s.request? = some r) (answer : endpoint.answer = .ok g)
    (after : c.lobby.after acts = ⟨some (.network (g.sessionAs r.role)), .idle, .running⟩) :
    c.StartEnd endpoint s
      (c.follow now server ⟨acts, .ok (.network (g.sessionAs r.role))⟩).client := by
  have hwait := waited_passDuring c now acts hheld
  let d := (c.passDuring now acts).perform acts
  have hlobby : d.lobby = ⟨some (.network (g.sessionAs r.role)), .idle, .running⟩ := by
    change (c.passDuring now acts).lobby.after acts = _
    rw [(alike_passDuring c now acts).lobby]
    exact after
  have hd : c.Waited d := hwait.perform acts
  change c.StartEnd endpoint s (d.openChannel (now + duration acts) server (g.sessionAs r.role)).client
  have houtcome := d.connections.connectOutcome (now + duration acts) server (g.sessionAs r.role).target
  unfold openChannel
  simp only
  cases houtcome with
  | alreadyOpen result isOpen =>
    rw [Connections.isOpen, hd.held] at isOpen
    cases isOpen
  | opened k result held target whole voices =>
    rw [NetworkSession.target] at result
    rw [result]
    exact .opened r g k _ hidle hr answer hlobby held target whole rfl rfl ⟨rfl, rfl⟩
      (voices.trans (by rw [hd.voices])) fun hc => (hd.attentive hc).of_same rfl rfl rfl
  | failed e result held voices =>
    rw [NetworkSession.target] at result
    rw [result]
    refine .aborted r g (.transport e) hidle hr answer ?_ held hd.inbound hd.pulse (hd.voices ▸ voices)
      fun hc => (hd.attentive hc).of_same rfl rfl rfl
    simp only [perform, Lobby.abort, hlobby]
    rfl

/-- A start follows a course that the lobby can take. -/
theorem start_cases (c : Client) (now : Nat) (endpoint : Endpoint) (server : Server) (s : Start) :
    ∃ course, c.lobby.StartOutcome endpoint s course ∧
      c.start now endpoint server s = c.follow now server course :=
  ⟨_, c.lobby.startOutcome c.settings.setupDelay endpoint s, c.start_eq_follow now endpoint server s⟩

/-- How a start ends for a client that has a channel only when it has a session. -/
theorem startEnd (now : Nat) (endpoint : Endpoint) (server : Server) (s : Start)
    (hheld : c.lobby.lifecycle = .uninitialized → c.connections.held = none) :
    c.StartEnd endpoint s (c.start now endpoint server s).client := by
  obtain ⟨course, houtcome, hstart⟩ := c.start_cases now endpoint server s
  rw [hstart]
  cases houtcome with
  | busy h => exact .busy h rfl
  | solo acts h hs after =>
    have hwait := waited_passDuring c now acts (hheld h)
    refine .solo h (by rw [hs]; rfl) ?_ (hwait.perform acts).refresh
    change (c.passDuring now acts).lobby.after acts = _
    rw [(alike_passDuring c now acts).lobby]
    exact after
  | granted acts r g h hr answer after =>
    exact startEnd_of_granted endpoint server s now acts r g h (hheld h) hr answer after
  | failed acts r e h hr answer after =>
    have hwait := waited_passDuring c now acts (hheld h)
    refine .failed e h ?_ (hwait.perform acts)
    change (c.passDuring now acts).lobby.after acts = _
    rw [(alike_passDuring c now acts).lobby]
    exact after

end Client

end PaddleLink
