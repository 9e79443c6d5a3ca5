import PaddleLink.Proofs.Client.Resources
import PaddleLink.Proofs.Client.Speech
import PaddleLink.Proofs.Topics.Trail
import PaddleLink.Proofs.Transport.Trail

/-!
A client that does what another one does, but later. Earlier connections and subscribers of its own do not
matter, and neither does what it shows of an earlier failure while it has no session.
-/

namespace PaddleLink

namespace Lobby

def showing (l : Lobby) : Option Status → Lobby
  | none => l
  | some status => { l with status := status }

variable {l : Lobby} {s? : Option Status}

@[simp] theorem session_showing : (l.showing s?).session = l.session := by
  cases s? <;> rfl

@[simp] theorem lifecycle_showing : (l.showing s?).lifecycle = l.lifecycle := by
  cases s? <;> rfl

theorem start_showing (delay : Nat) (endpoint : Endpoint) (s : Start) :
    (l.showing s?).start delay endpoint s = l.start delay endpoint s := by
  simp only [start, startSolo, startNetwork, ifIdle, lifecycle_showing]

/-- A start that is made shows a status of its own. -/
theorem after_start_showing (h : l.lifecycle = .uninitialized) (delay : Nat) (endpoint : Endpoint) (s : Start) :
    (l.showing s?).after (l.start delay endpoint s).acts = l.after (l.start delay endpoint s).acts := by
  cases s? with
  | none => rfl
  | some status =>
    unfold start
    cases s.request? with
    | none => simp only [startSolo, ifIdle, h, if_true]; rfl
    | some r =>
      simp only [startNetwork, ifIdle, h, if_true]
      cases endpoint.answer <;> rfl

end Lobby

/-- A client and one that is behind it. Until the client behind starts a session or resets, it may show the status
of an earlier failure. -/
structure Client.Trails (g : Lag) (s? : Option Status) (c c' : Client) : Prop where
  settings : c'.settings = c.settings
  lobby : c'.lobby = c.lobby.showing s?
  idle : s?.isSome → c.lobby.lifecycle = .uninitialized
  connections : c.connections.Trails g c'.connections
  inbound : c'.inbound = c.inbound.map (· + g.omitted)
  topics : c.topics.Trails g.ended c'.topics
  feeds : c'.feeds = c.feeds
  composer : c'.composer = { c.composer with marks := c.composer.marks + g.marks }
  keyboard : c'.keyboard = c.keyboard
  pulse : c'.pulse = c.pulse.map (Pulse.later g.time)
  /-- Only heartbeats look at it. -/
  lastSnapshot : c.pulse.isSome → c'.lastSnapshot = c.lastSnapshot.map (· + g.time)
  score : c'.score = c.score
  ticks : c'.ticks = c.ticks

theorem Composer.recompute_marks (c : Composer) (n : Nat) (session : Option Session) (keyboard : Keyboard) :
    ({ c with marks := c.marks + n } : Composer).recompute session keyboard =
      { c.recompute session keyboard with marks := (c.recompute session keyboard).marks + n } := by
  simp only [recompute]
  split
  · rfl
  · rw [Nat.add_right_comm]

theorem Composer.recordAll_marks (c : Composer) (n : Nat) (me : Option ActorId) (batches : List (List InputEvent)) :
    ({ c with marks := c.marks + n } : Composer).recordAll me batches =
      ({ (c.recordAll me batches).1 with marks := (c.recordAll me batches).1.marks + n },
        (c.recordAll me batches).2) := by
  unfold recordAll
  generalize false = heard
  induction batches generalizing c heard with
  | nil => rfl
  | cons es batches ih => exact ih (c.record me es) _

namespace Client

variable {g : Lag} {s? : Option Status} {c c' : Client}

theorem Trails.me (h : c.Trails g s? c') : c'.me = c.me := by
  rw [Client.me, Client.me, h.lobby, Lobby.session_showing]

theorem Trails.refresh (h : c.Trails g s? c') : c.refresh.Trails g s? c'.refresh := by
  have hcomposer : c'.composer.recompute c'.lobby.session c'.keyboard =
      { c.composer.recompute c.lobby.session c.keyboard with
        marks := (c.composer.recompute c.lobby.session c.keyboard).marks + g.marks } := by
    rw [h.composer, h.lobby, Lobby.session_showing, h.keyboard, Composer.recompute_marks]
  exact { h with composer := hcomposer }

theorem Trails.type (h : c.Trails g s? c') (e : KeyEvent) : (c.type e).Trails g s? (c'.type e) := by
  unfold Client.type
  rw [h.keyboard]
  split
  · exact Trails.refresh { h with keyboard := rfl }
  · exact h

theorem Trails.nextTick (h : c.Trails g s? c') : c.nextTick.1.Trails g s? c'.nextTick.1 :=
  { h with ticks := rfl }

theorem Trails.settle (h : c.Trails g s? c') (now : Nat) : (c.settle now).Trails g s? (c'.settle (now + g.time)) :=
  { h with connections := h.connections.settle now }

theorem Trails.pass (h : c.Trails g s? c') (now until_ : Nat) :
    (c.pass now until_).Trails g s? (c'.pass (now + g.time) (until_ + g.time)) := by
  have hsettled := h.settle now
  have hpulse := hsettled.pulse
  have hlast := hsettled.lastSnapshot
  have hheld := hsettled.connections.held
  unfold Client.pass
  simp only
  generalize hp : (c.settle now).pulse = p, hp' : (c'.settle (now + g.time)).pulse = p' at hpulse hlast
  generalize hk : (c.settle now).connections.held = k,
    hk' : (c'.settle (now + g.time)).connections.held = k' at hheld
  cases p with
  | none =>
    subst hpulse
    exact hsettled
  | some p =>
    subst hpulse
    cases hheld with
    | none => exact hsettled
    | some hab =>
      have hrun := Pulse.run_later p (c.settle now).lastSnapshot hab.link now until_
      have hlast' := hlast rfl
      simp only [Option.map_some, hlast']
      exact { hsettled with
        pulse := congrArg some hrun.1
        lastSnapshot := fun _ => rfl
        connections := { hsettled.connections with held := .some { hab with link := hrun.2 } } }

theorem Trails.passDuring (h : c.Trails g s? c') (now : Nat) (acts : List Act) :
    (c.passDuring now acts).Trails g s? (c'.passDuring (now + g.time) acts) := by
  unfold Client.passDuring
  split
  · exact h
  · rw [Nat.add_right_comm]
    exact h.pass now _

theorem snapshotNow?_later (h : c.Trails g s? c') (now : Nat) (objects : List GameObject) :
    c'.snapshotNow? (now + g.time) objects =
      (c.snapshotNow? now objects).map fun s => { s with time := s.time + UInt64.ofNat g.time } := by
  unfold snapshotNow?
  rw [h.lobby, Lobby.lifecycle_showing, Lobby.session_showing, h.keyboard]
  split
  · cases hs : c.lobby.session with
    | none => rfl
    | some s =>
      cases s with
      | solo => rfl
      | network s =>
        simp only [Option.bind_some, snapshot?_network, UInt64.ofNat_add]
        split
        · rfl
        · rw [Option.map_map]
          rfl
  · rfl

theorem Trails.sendSnapshot (h : c.Trails g s? c') (now : Nat) (objects : List GameObject) :
    (c.sendSnapshot now objects).1.Trails g s? (c'.sendSnapshot (now + g.time) objects).1 ∧
      (c'.sendSnapshot (now + g.time) objects).2 = (c.sendSnapshot now objects).2 := by
  have hsnapshot := snapshotNow?_later h now objects
  unfold Client.sendSnapshot
  rw [hsnapshot, h.connections.isOpen]
  cases c.snapshotNow? now objects with
  | none => exact ⟨h, rfl⟩
  | some s =>
    simp only [Option.map_some]
    split
    · have hretimed : IsRetimed g.time (writeMessage (.snapshot s))
          (writeMessage (.snapshot { s with time := s.time + UInt64.ofNat g.time })) := ⟨.snapshot s, rfl, rfl⟩
      refine ⟨{ h with lastSnapshot := fun _ => rfl, connections := ?_ }, rfl⟩
      exact h.connections.mapHeld fun hl => hl.send hretimed
    · exact ⟨h, rfl⟩

section

variable (h : c.Trails g none c')
include h

theorem Trails.perform (acts : List Act) : (c.perform acts).Trails g none (c'.perform acts) := by
  have hlobby : c'.lobby.after acts = c.lobby.after acts := by rw [h.lobby]; rfl
  exact { h with lobby := hlobby, idle := nofun }

theorem Trails.deliver (d : Delivery) : (c.deliver d).Trails g none (c'.deliver d) := by
  cases d with
  | reconcile events =>
    have hacts : c'.lobby.reconcileAll events = c.lobby.reconcileAll events := by rw [h.lobby]; rfl
    simp only [Client.deliver, hacts]
    exact h.perform _
  | publish topic events =>
    exact { h with
      topics := h.topics.deliver (.publish topic events)
      feeds := congrArg (fun f => f.deliver (.publish topic events)) h.feeds }

theorem Trails.foldl_deliver (ds : List Delivery) :
    (ds.foldl Client.deliver c).Trails g none (ds.foldl Client.deliver c') := by
  induction ds generalizing c c' with
  | nil => exact h
  | cons d ds ih => exact ih (h.deliver d)

theorem Trails.stopPulse : c.stopPulse.Trails g none c'.stopPulse :=
  { h with pulse := rfl, lastSnapshot := nofun }

theorem Trails.drain (b : Bool) : (c.drain b).Trails g none (c'.drain b) := by
  have hread : c'.composer.recordAll c'.me c'.feeds.input.queue =
      ({ (c.composer.recordAll c.me c.feeds.input.queue).1 with
        marks := (c.composer.recordAll c.me c.feeds.input.queue).1.marks + g.marks },
        (c.composer.recordAll c.me c.feeds.input.queue).2) := by
    rw [h.composer, h.me, h.feeds, Composer.recordAll_marks]
  unfold Client.drain
  simp only [hread]
  have hdrained : Trails g none
      { c with
        composer := (c.composer.recordAll c.me c.feeds.input.queue).1
        ticks := c.feeds.ticks.queue.foldl addTicks c.ticks
        score := c.feeds.status.queue.foldl (fun score new => new.getLast?.or score) c.score
        feeds := c.feeds.clear }
      { c' with
        composer := { (c.composer.recordAll c.me c.feeds.input.queue).1 with
          marks := (c.composer.recordAll c.me c.feeds.input.queue).1.marks + g.marks }
        ticks := c'.feeds.ticks.queue.foldl addTicks c'.ticks
        score := c'.feeds.status.queue.foldl (fun score new => new.getLast?.or score) c'.score
        feeds := c'.feeds.clear } :=
    { h with
      composer := rfl
      ticks := by rw [h.feeds, h.ticks]
      score := by rw [h.feeds, h.score]
      feeds := congrArg Feeds.clear h.feeds }
  split
  · exact hdrained.refresh
  · exact hdrained

theorem Trails.takeBatch (batch : List Event) : (c.takeBatch batch).Trails g none (c'.takeBatch batch) := by
  -- the deliveries are the same for both, because both streams are open or both are not
  have hdelivered := h.foldl_deliver (c.topics.deliveries batch)
  have hlifecycle := congrArg Lobby.lifecycle hdelivered.lobby
  rw [Lobby.lifecycle_showing] at hlifecycle
  unfold Client.takeBatch
  simp only [h.topics.deliveries, h.topics.counts, hlifecycle]
  split
  · exact hdelivered.stopPulse.drain _
  · exact hdelivered.drain _

theorem Trails.takeLoss (reason : Option String) : (c.takeLoss reason).Trails g none (c'.takeLoss reason) := by
  have hclosed : Trails g none { c.stopPulse with connections := c.connections.close, inbound := none }
      { c'.stopPulse with connections := c'.connections.close, inbound := none } :=
    { h.stopPulse with connections := h.connections.close, inbound := rfl }
  have hlost := hclosed.perform (Lobby.connectionLost reason)
  exact { hlost with topics := hlost.topics.renew, feeds := rfl }

theorem Trails.take (n : Notice) :
    (c.take n).Trails g none (c'.take n) ∧ c'.handedOut n = c.handedOut n := by
  cases n with
  | batch events => exact ⟨h.takeBatch events, by simp only [handedOut, h.topics.counts]⟩
  | closed reason => exact ⟨h.takeLoss reason, rfl⟩

theorem Trails.foldl_take (ns : List Notice) (count : Nat) :
    let told (c : Client) := ns.foldl (fun p n => (p.1.take n, p.2 + p.1.handedOut n)) (c, count)
    (told c).1.Trails g none (told c').1 ∧ (told c').2 = (told c).2 := by
  induction ns generalizing c c' count with
  | nil => exact ⟨h, rfl⟩
  | cons n ns ih =>
    obtain ⟨htaken, hhanded⟩ := h.take n
    simp only [List.foldl_cons, hhanded]
    exact ih htaken _

end

theorem Trails.clearNotices (h : c.Trails g s? c') (hc : c.Coherent) : c.clearNotices.Trails g s? c'.clearNotices := by
  have hinbound := h.inbound
  unfold Client.clearNotices
  cases hi : c.inbound with
  | none =>
    rw [hi] at hinbound
    rw [hinbound]
    exact h
  | some i =>
    rw [hi] at hinbound
    rw [hinbound]
    have hlast : i = c.connections.past.length := by
      have hheld := hc.inbound
      rw [hi] at hheld
      obtain ⟨-, -, hlast⟩ := Option.map_eq_some_iff.mp hheld.symm
      exact hlast.symm
    have hcleared := h.connections.modify (fun hab => hab.mapLink fun hl => hl.clearNotices) (i + g.omitted)
    rw [g.connection?_of_le (hlast ▸ h.connections.shared)] at hcleared
    exact { h with connections := hcleared, inbound := rfl }

theorem Trails.notices (h : c.Trails g s? c') (hc : c.Coherent) (hc' : c'.Coherent) : c'.notices = c.notices := by
  have hheld := h.connections.held
  rw [Client.notices, Client.notices, hc.listened?_eq, hc'.listened?_eq]
  generalize c.connections.held = a, c'.connections.held = b at hheld
  cases hheld with
  | none => rfl
  | some hab => simp only [hab.link.notices]

theorem pump_of_unheard (h : c.inbound = none) : c.pump = (c, 0) := by
  simp [Client.pump, takeNotices, Client.notices, Client.clearNotices, isToldAll, listened?, h]

theorem Trails.pump (h : c.Trails g s? c') (hc : c.Sound) (hc' : c'.Sound) :
    c.pump.1.Trails g s? c'.pump.1 ∧ c'.pump.2 = c.pump.2 := by
  cases s? with
  | some status =>
    have hunheard : c.inbound = none := (hc.idle (h.idle rfl)).2.1
    have hunheard' : c'.inbound = none := by rw [h.inbound, hunheard]; rfl
    rw [pump_of_unheard hunheard, pump_of_unheard hunheard']
    exact ⟨h, rfl⟩
  | none =>
    have hrest : c.takeNotices.1.isToldAll = false := (sound_takeNotices hc).2
    have hrest' : c'.takeNotices.1.isToldAll = false := (sound_takeNotices hc').2
    have htaken := (h.clearNotices hc.toCoherent).foldl_take c.notices 0
    unfold Client.pump
    simp only [hrest, hrest', Bool.false_eq_true, if_false]
    unfold Client.takeNotices
    rw [h.notices hc.toCoherent hc'.toCoherent]
    exact htaken

theorem start_later (session : SessionId) (player : ActorId) (interval now elapsed d : Nat) :
    Pulse.start session player interval (now + d + elapsed) =
      (Pulse.start session player interval (now + elapsed)).later d := by
  have hnext : now + d + elapsed + interval = now + elapsed + interval + d := by omega
  rw [Pulse.start, hnext]
  rfl

theorem Trails.openChannel (h : c.Trails g none c') (now : Nat) (server : Server) (session : NetworkSession) :
    let r := c.openChannel now server session
    let r' := c'.openChannel (now + g.time) server session
    r'.result = r.result ∧ r'.acts = r.acts ∧ r.client.Trails g none r'.client := by
  obtain ⟨hresult, helapsed, hconnections⟩ :=
    h.connections.connect now server ⟨session.id, session.me.id, session.role⟩
  unfold Client.openChannel
  simp only [hresult, helapsed]
  split
  · rename_i connected _
    refine ⟨rfl, rfl, Trails.refresh { h with
      connections := hconnections
      inbound := ?_
      pulse := ?_
      lastSnapshot := fun _ => rfl }⟩
    · cases connected with
      | opened => exact congrArg some hconnections.length_past
      | alreadyOpen => exact h.inbound
    · rw [h.settings]
      exact congrArg some (start_later ..)
  · have hfailed : Trails g none { c with connections := (c.connections.connect now server _).connections }
        { c' with connections := (c'.connections.connect (now + g.time) server _).connections } :=
      { h with connections := hconnections }
    exact ⟨rfl, rfl, hfailed.perform _⟩

theorem Trails.follow (h : c.Trails g s? c') (now : Nat) (server : Server)
    {course : Course (Except SessionError Session)}
    (hshown : (c.lobby.showing s?).after course.acts = c.lobby.after course.acts) :
    let r := c.follow now server course
    let r' := c'.follow (now + g.time) server course
    r'.result = r.result ∧ r'.acts = r.acts ∧ r.client.Trails g none r'.client := by
  have hpassed := h.passDuring now course.acts
  have hwaited : ((c.passDuring now course.acts).perform course.acts).Trails g none
      ((c'.passDuring (now + g.time) course.acts).perform course.acts) := by
    have hlobby : (c'.passDuring (now + g.time) course.acts).lobby.after course.acts =
        (c.passDuring now course.acts).lobby.after course.acts := by
      rw [hpassed.lobby, (alike_passDuring c now course.acts).lobby, hshown]
    exact { hpassed with lobby := hlobby, idle := nofun }
  unfold Client.follow
  cases course.result with
  | error e => exact ⟨rfl, rfl, hwaited⟩
  | ok session =>
    cases session with
    | solo => exact ⟨rfl, rfl, hwaited.refresh⟩
    | network session =>
      obtain ⟨hresult, hacts, hclient⟩ := hwaited.openChannel (now + duration course.acts) server session
      simp only [Nat.add_right_comm now g.time]
      exact ⟨hresult, congrArg (course.acts ++ ·) hacts, hclient⟩

theorem Trails.start (h : c.Trails g s? c') (now : Nat) (endpoint : Endpoint) (server : Server) (s : Start) :
    let r := c.start now endpoint server s
    let r' := c'.start (now + g.time) endpoint server s
    r'.result = r.result ∧ r'.acts = r.acts ∧ r.client.Trails g none r'.client := by
  rw [start_eq_follow, start_eq_follow, h.lobby, h.settings, Lobby.start_showing]
  apply h.follow
  cases s? with
  | none => rfl
  | some status => exact Lobby.after_start_showing (h.idle rfl) _ endpoint s

theorem Trails.reset (h : c.Trails g s? c') : c.reset.Trails g none c'.reset where
  settings := h.settings
  lobby := rfl
  idle := nofun
  connections := h.connections.close
  inbound := rfl
  topics := h.topics.renew
  feeds := rfl
  composer := by rw [Client.reset, h.composer]; simp only [Composer.reset, Client.reset, Nat.add_right_comm]
  keyboard := h.keyboard
  pulse := rfl
  lastSnapshot := nofun
  score := rfl
  ticks := rfl

end Client

end PaddleLink
