import PaddleLink.Proofs.Client.Hush
import PaddleLink.Proofs.Client.Moments
import PaddleLink.Proofs.Presence.Rhythm

/-!
How long a client may be silent. While it is able to speak, less than two intervals go by between two messages,
wherever the snapshots fall and whatever was said in earlier sessions.
-/

namespace PaddleLink

theorem Settings.heartbeatInterval_pos (s : Settings) : 0 < s.validated.heartbeatInterval := by
  unfold validated
  simp only
  split
  · decide
  · omega

theorem Client.hushed_rest (c : Client) (now until_ : Nat) : c.Hushed (c.rest now until_) := by
  unfold rest
  split
  · exact hushed_of_connections
      (Connections.hushed_of_map (f := fun k => k.mapLink fun l => l.pass now until_)
        (fun k => Link.voice_pass k.link now until_) (fun _ => Link.isOpen_of_pass) rfl) rfl rfl rfl
  · exact hushed_of_same rfl rfl rfl rfl

namespace Timeline

variable {t : Timeline}

inductive StepCall (t : Timeline) (x : Happening) : Prop where
  | start (endpoint : Endpoint) (server : Server) (s : Start) (happening : x = .start endpoint server s)
  | speak (c : Client) (objects : List GameObject) (opens : t.opens x = false) (hushed : t.client.Hushed c)
    (sound : c.Sound) (step : t.step x = ⟨(c.sendSnapshot t.now objects).1, t.now⟩)
  | hush (opens : t.opens x = false) (hushed : t.client.Hushed (t.step x).client) (now : (t.step x).now = t.now)

theorem stepCall (h : t.client.Sound) {x : Happening} (hx : x.isPass = false) : t.StepCall x := by
  cases x with
  | start endpoint server s => exact .start endpoint server s rfl
  | frame sim scene seconds =>
    exact .speak t.client.pump.1 _ rfl (Client.hushed_pump h.attentive) (Client.sound_pump h) rfl
  | sendSnapshot objects => exact .speak t.client objects rfl (Client.hushed_refl _) h rfl
  | pass ms => cases hx
  | pump => exact .hush rfl (Client.hushed_pump h.attentive) rfl
  | type e =>
    have htype : t.client.Hushed (t.client.type e) := by
      unfold Client.type
      split <;> exact Client.hushed_of_same rfl rfl rfl rfl
    exact .hush rfl htype rfl
  | reset => exact .hush rfl (Client.hushed_of_offline rfl rfl) rfl
  | nextTick | subscribe | read | unsubscribe => exact .hush rfl (Client.hushed_of_same rfl rfl rfl rfl) rfl
  | push i text =>
    exact .hush rfl (Client.hushed_onConnection i (fun k => k.voice_push t.now text) fun k => k.isOpen_push) rfl
  | hangUp i =>
    exact .hush rfl (Client.hushed_onConnection i (fun k => k.voice_hangUp t.now) fun k => k.isOpen_hangUp) rfl
  | dropServer i =>
    exact .hush rfl (Client.hushed_onConnection i (fun k => k.voice_dropServer t.now) fun k => k.isOpen_hangUp) rfl
  | fail i e => exact .hush rfl (Client.hushed_onConnection i (fun _ => rfl) fun _ => id) rfl
  | turn i =>
    exact .hush rfl (Client.hushed_onConnection i (fun k => Link.voice_turn k.link t.now) fun _ => Link.isOpen_of_turn)
      rfl
  | settle => exact .hush rfl (Client.hushed_settle _ t.now) rfl

end Timeline

structure Pulse.Punctual (p : Pulse) (interval now : Nat) (isOpen : Bool) : Prop where
  pace : p.interval = interval
  ahead : p.stopped = false → now ≤ p.next
  stopped : p.stopped = true → isOpen = false

namespace Pulse

variable {p : Pulse} {interval now : Nat} {isOpen : Bool}

theorem punctual_start (session : SessionId) (player : ActorId) (hi : 0 < interval) (now : Nat) :
    (start session player interval now).Punctual interval now isOpen where
  pace := rfl
  ahead := fun _ => Nat.le_add_right now interval
  stopped := by
    intro hstopped
    have hzero : interval = 0 := of_decide_eq_true hstopped
    omega

theorem Punctual.running (h : p.Punctual interval now true) : p.stopped = false := by
  cases hstopped : p.stopped with
  | false => rfl
  | true => cases h.stopped hstopped

theorem Punctual.skipped (h : p.Punctual interval now isOpen) : (p.after .skipped).Punctual interval now isOpen where
  pace := h.pace
  ahead := fun hrunning => Nat.le_add_right_of_le (h.ahead hrunning)
  stopped := h.stopped

theorem Punctual.refused (h : p.Punctual interval now false) : (p.after .refused).Punctual interval now false where
  pace := h.pace
  ahead := nofun
  stopped := fun _ => rfl

end Pulse

/-- A client, and what it has said on the channel of its session, each text with its time. -/
structure Diary where
  timeline : Timeline
  began : Nat
  queued : List (Nat × String)

namespace Diary

def begin (settings : Settings) (base : Url) : Diary :=
  ⟨⟨.fresh settings.validated base, 0⟩, 0, []⟩

def client (d : Diary) : Client :=
  d.timeline.client

def now (d : Diary) : Nat :=
  d.timeline.now

def times (d : Diary) : List Nat :=
  d.queued.map Prod.fst

def note (d : Diary) (t : Timeline) : Diary where
  timeline := t
  began := d.began
  queued := d.queued ++
    (t.client.connections.said.drop d.client.connections.said.length).map fun text => (t.now, text)

def opens (d : Diary) : Moment → Bool
  | .happens x _ => d.timeline.opens x
  | _ => false

def step (d : Diary) (m : Moment) : Diary :=
  let t := d.timeline.moment m
  if d.opens m then ⟨t, t.now, []⟩ else d.note t

def run (d : Diary) (ms : List Moment) : Diary :=
  ms.foldl step d

/-- A client that has never been silent for long, and will not be. -/
structure Prompt (interval : Nat) (d : Diary) : Prop where
  sound : d.client.Sound
  settings : d.client.settings.heartbeatInterval = interval
  said : ∀ k, d.client.connections.held = some k → k.link.voice.texts = d.queued.map Prod.snd
  paced : Paced interval d.began d.times
  pulse : ∀ p, d.client.pulse = some p → p.Punctual interval d.now d.client.connections.isOpen
  rhythm : d.client.Speaks → ∃ p, d.client.pulse = some p ∧
    Rhythm interval d.began d.times d.client.lastSnapshot p.next d.now

variable {interval : Nat} {d : Diary} {t : Timeline}

theorem prompt_of_offline (sound : d.client.Sound) (settings : d.client.settings.heartbeatInterval = interval)
    (hheld : d.client.connections.held = none) (hpulse : d.client.pulse = none)
    (paced : Paced interval d.began d.times) : Prompt interval d := by
  refine ⟨sound, settings, ?_, paced, ?_, ?_⟩
  · intro k hk
    rw [hheld] at hk
    cases hk
  · intro p hp
    rw [hpulse] at hp
    cases hp
  · rintro ⟨-, hopen⟩
    rw [Connections.isOpen, hheld] at hopen
    cases hopen

theorem prompt_begin (settings : Settings) (base : Url) :
    Prompt settings.validated.heartbeatInterval (begin settings base) := by
  refine prompt_of_offline (Client.sound_fresh settings.validated base) rfl rfl rfl ⟨?_, .nil⟩
  intro t ht
  cases ht

/-- Nothing is written down while nothing is said. -/
theorem note_of_hushed (h : d.client.connections.Hushed t.client.connections) : d.note t = ⟨t, d.began, d.queued⟩ := by
  have hnone : t.client.connections.said.drop d.client.connections.said.length = [] := by
    cases hk' : t.client.connections.held with
    | none =>
      have hnothing : t.client.connections.said = [] := by rw [Connections.said, hk']; rfl
      rw [hnothing, List.drop_nil]
    | some k' =>
      obtain ⟨k, hk, hvoice, -⟩ := h k' hk'
      rw [Connections.said_eq_of_held hk, Connections.said_eq_of_held hk', hvoice, List.drop_length]
  rw [note, hnone, List.map_nil, List.append_nil]

/-- What there is to see to when nothing is said. -/
theorem Prompt.of_hushed (h : Prompt interval d) (hsound : t.client.Sound)
    (hsettings : t.client.settings = d.client.settings) (hhushed : d.client.connections.Hushed t.client.connections)
    (hpulse : ∀ p, t.client.pulse = some p → p.Punctual interval t.now t.client.connections.isOpen)
    (hrhythm : t.client.Speaks → ∃ p, t.client.pulse = some p ∧
      Rhythm interval d.began d.times t.client.lastSnapshot p.next t.now) : Prompt interval (d.note t) := by
  rw [note_of_hushed hhushed]
  refine ⟨hsound, hsettings ▸ h.settings, ?_, h.paced, hpulse, hrhythm⟩
  intro k' hk'
  obtain ⟨k, hk, hvoice, -⟩ := hhushed k' hk'
  rw [hvoice]
  exact h.said k hk

theorem Prompt.running (h : Prompt interval d) (hspeaks : d.client.Speaks) {p : Pulse} (hp : d.client.pulse = some p) :
    p.stopped = false := by
  have hpunctual := h.pulse p hp
  rw [hspeaks.2] at hpunctual
  exact hpunctual.running

/-- Nothing is said for some time, and no check is missed. -/
theorem Prompt.hush (h : Prompt interval d) (hsound : t.client.Sound)
    (hsettings : t.client.settings = d.client.settings) (hhushed : d.client.Hushed t.client) (hnow : d.now ≤ t.now)
    (hahead : ∀ p, t.client.pulse = some p → p.stopped = false → t.now ≤ p.next) : Prompt interval (d.note t) := by
  refine h.of_hushed hsound hsettings hhushed.connections ?_ ?_
  · intro p hp
    obtain ⟨hpace, -, hstopped⟩ := h.pulse p (hhushed.pulse p hp)
    exact ⟨hpace, hahead p hp, fun hover => hhushed.connections.shut (hstopped hover)⟩
  · intro hspeaks
    obtain ⟨hbefore, hpulse, hlast⟩ := hhushed.speaks hspeaks
    obtain ⟨p, hp, hrhythm⟩ := h.rhythm hbefore
    have hp' : t.client.pulse = some p := hpulse.trans hp
    have hwaited := hrhythm.wait hnow (hahead p hp' (h.running hbefore hp))
    exact ⟨p, hp', hlast ▸ hwaited⟩

theorem Prompt.stay (h : Prompt interval d) {c : Client} (hsound : c.Sound) (hsettings : c.settings = d.client.settings)
    (hhushed : d.client.Hushed c) : Prompt interval (d.note ⟨c, d.now⟩) :=
  h.hush hsound hsettings hhushed (Nat.le_refl _) fun p hp => (h.pulse p (hhushed.pulse p hp)).ahead

theorem Prompt.nextCheck_ahead (h : Prompt interval d) : ∀ next ∈ d.client.nextCheck?, d.now ≤ next := by
  intro next hnext
  obtain ⟨p, hp, hnext⟩ := Option.bind_eq_some_iff.mp hnext
  split at hnext
  · rename_i hlive
    cases hnext
    exact (h.pulse p hp).ahead hlive.1
  · cases hnext

theorem Prompt.utter (h : Prompt interval d) (hsound : t.client.Sound)
    (hsettings : t.client.settings = d.client.settings) {k k' : Connection} {text : String}
    (hk : d.client.connections.held = some k) (hk' : t.client.connections.held = some k')
    (hsaid : k'.link.voice.texts = k.link.voice.texts ++ [text]) {p : Pulse} (hp : t.client.pulse = some p)
    (hpace : p.interval = interval) (hrunning : p.stopped = false)
    (hrhythm : Rhythm interval d.began (d.times ++ [t.now]) t.client.lastSnapshot p.next t.now) :
    Prompt interval (d.note t) := by
  have hqueued : (d.note t).queued = d.queued ++ [(t.now, text)] := by
    simp [note, Connections.said_eq_of_held hk, Connections.said_eq_of_held hk', hsaid]
  have htimes : (d.note t).times = d.times ++ [t.now] := by
    rw [times, hqueued, List.map_append]
    rfl
  refine ⟨hsound, hsettings ▸ h.settings, ?_, htimes ▸ hrhythm.paced, ?_, fun _ => ⟨p, hp, htimes ▸ hrhythm⟩⟩
  · intro k'' hk''
    obtain rfl := Option.some.inj (hk'.symm.trans hk'')
    rw [hqueued, hsaid, h.said k hk, List.map_append]
    rfl
  · intro q hq
    obtain rfl := Option.some.inj (hp.symm.trans hq)
    refine ⟨hpace, fun _ => hrhythm.ahead, ?_⟩
    rw [hrunning]
    exact nofun

/-- A client that has fallen silent may send a snapshot. -/
theorem Prompt.speak (h : Prompt interval d) (hi : 0 < interval) {c : Client} (hsound : c.Sound)
    (hsettings : c.settings = d.client.settings) (hhushed : d.client.Hushed c) (objects : List GameObject) :
    Prompt interval (d.note ⟨(c.sendSnapshot d.now objects).1, d.now⟩) := by
  have hsilent : d.note ⟨c, d.now⟩ = ⟨⟨c, d.now⟩, d.began, d.queued⟩ := note_of_hushed hhushed.connections
  have hbefore : Prompt interval ⟨⟨c, d.now⟩, d.began, d.queued⟩ := by
    rw [← hsilent]
    exact h.stay hsound hsettings hhushed
  have hsent : (c.sendSnapshot d.now objects).1.Sound := hsound.of_tended (Client.tended_sendSnapshot c _ objects)
  rcases c.sendSnapshot_cases d.now objects with hsame | ⟨text, hspeaks, hsend⟩
  · rw [hsame, hsilent]
    exact hbefore
  · obtain ⟨k, hk, hopen⟩ := Connections.held_of_isOpen hspeaks.2
    obtain ⟨p, hp, hrhythm⟩ := hbefore.rhythm hspeaks
    have hrunning : p.stopped = false := hbefore.running hspeaks hp
    have hsaid : c.connections.said = d.client.connections.said := by
      obtain ⟨k₀, hk₀, hvoice, -⟩ := hhushed.connections k hk
      rw [Connections.said_eq_of_held hk, Connections.said_eq_of_held hk₀, hvoice]
    have hqueued : (k.mapLink fun l => l.send text).link.voice.texts = k.link.voice.texts ++ [text] := by
      rw [Connection.mapLink, Link.voice_send, if_pos hopen]
    rw [hsend] at hsent ⊢
    have hpage := hbefore.utter (t := ⟨_, d.now⟩) hsent rfl hk (congrArg (Option.map _) hk) hqueued hp
      (hbefore.pulse p hp).pace hrunning (hrhythm.snapshot hi)
    unfold note at hpage ⊢
    rw [← hsaid]
    exact hpage

theorem Prompt.quiet (h : Prompt interval d) {p p' : Pulse} {k : Connection} (hp : d.client.pulse = some p)
    (hk : d.client.connections.held = some k)
    (hsound : (d.client.withPulse k p' (k.link.settle p.next)).Sound)
    (hpulse : p'.Punctual interval d.now k.link.isOpen)
    (hrhythm : k.link.isOpen = true → Rhythm interval d.began d.times d.client.lastSnapshot p.next d.now →
      Rhythm interval d.began d.times d.client.lastSnapshot p'.next d.now) :
    Prompt interval (d.note ⟨d.client.withPulse k p' (k.link.settle p.next), d.now⟩) := by
  have hhushed : d.client.connections.Hushed (d.client.withPulse k p' (k.link.settle p.next)).connections := by
    intro k' hk'
    obtain rfl := Option.some.inj hk'
    exact ⟨k, hk, Link.voice_settle k.link p.next, Link.isOpen_of_settle⟩
  have hopen : d.client.connections.isOpen = k.link.isOpen := by rw [Connections.isOpen, hk]
  refine h.of_hushed hsound rfl hhushed ?_ ?_
  · intro q hq
    obtain rfl := Option.some.inj hq
    exact ⟨hpulse.pace, hpulse.ahead, fun hover => hhushed.shut (hopen.trans (hpulse.stopped hover))⟩
  · rintro ⟨hrunning, hsettled⟩
    have hbefore : k.link.isOpen = true := Link.isOpen_of_settle hsettled
    have hspeaks : d.client.Speaks := ⟨hrunning, hopen.trans hbefore⟩
    obtain ⟨q, hq, hold⟩ := h.rhythm hspeaks
    obtain rfl := Option.some.inj (hp.symm.trans hq)
    exact ⟨p', rfl, hrhythm hbefore hold⟩

theorem Prompt.check (h : Prompt interval d) (hi : 0 < interval) :
    Prompt interval (d.note ⟨d.client.check d.now, d.now⟩) := by
  have hsound := h.sound.of_tended (Client.tended_check d.client d.now)
  rcases d.client.check_cases d.now with hrest | ⟨p, k, hp, hk, hrunning, hdue, hcheck⟩
  · rw [hrest]
    exact h.stay h.sound rfl (Client.hushed_refl _)
  · have hopen : d.client.connections.isOpen = k.link.isOpen := by rw [Connections.isOpen, hk]
    have hpunctual := h.pulse p hp
    rw [hopen] at hpunctual
    have hpace : p.interval = interval := hpunctual.pace
    have houtcome := p.checkOutcome d.client.lastSnapshot k.link
    rw [hcheck] at hsound ⊢
    revert hsound
    generalize p.check d.client.lastSnapshot k.link = checked at houtcome
    intro hsound
    cases houtcome with
    | skipped due =>
      refine h.quiet hp hk hsound hpunctual.skipped ?_
      intro _ hrhythm
      rw [hpace] at due
      exact hpace ▸ hrhythm.skip hdue due
    | refused due shut =>
      rw [shut] at hpunctual
      refine h.quiet hp hk hsound (shut ▸ hpunctual.refused) ?_
      intro isOpen
      rw [shut] at isOpen
      cases isOpen
    | sent due isOpen =>
      have hspeaks : d.client.Speaks := ⟨(h.sound.pulse (by rw [hp]; rfl)).1, hopen.trans isOpen⟩
      obtain ⟨q, hq, hrhythm⟩ := h.rhythm hspeaks
      obtain rfl := Option.some.inj (hp.symm.trans hq)
      have hqueued : ((k.link.send (writeMessage p.message)).settle p.next).voice.texts =
          k.link.voice.texts ++ [writeMessage p.message] := by
        rw [Link.voice_settle, Link.voice_send, if_pos isOpen]
      exact h.utter hsound rfl hk rfl hqueued rfl hpace hrunning (hpace ▸ hrhythm.heartbeat hi hdue)

/-- A new session begins with heartbeats that were just started. -/
theorem Prompt.start (h : Prompt interval d) (hi : 0 < interval) (endpoint : Endpoint) (server : Server) (s : Start) :
    Prompt interval (d.step (.happens (.start endpoint server s) rfl)) := by
  let r := d.client.start d.now endpoint server s
  have hsound : r.client.Sound := Timeline.sound_step h.sound (.start endpoint server s)
  have hsettings : r.client.settings = d.client.settings := (Client.kept_start _ _ endpoint server s).settings
  have hstep : d.step (.happens (.start endpoint server s) rfl) =
      if r.isNetwork then ⟨⟨r.client, d.now + duration r.acts⟩, d.now + duration r.acts, []⟩
      else d.note ⟨r.client, d.now + duration r.acts⟩ := rfl
  rw [hstep]
  cases Client.startCall h.sound.toCoherent d.now endpoint server s with
  | opened isNetwork speaks session player pulse lastSnapshot said =>
    rw [if_pos isNetwork]
    have hpulse : ∀ p, r.client.pulse = some p → p = .start session player interval (d.now + duration r.acts) := by
      intro p hp
      rw [← h.settings]
      exact Option.some.inj (hp.symm.trans pulse)
    refine ⟨hsound, hsettings ▸ h.settings, ?_, ⟨by simp [times], .nil⟩, ?_, ?_⟩
    · intro k hk
      rw [← Connections.said_eq_of_held hk]
      exact said
    · intro p hp
      rw [hpulse p hp]
      exact Pulse.punctual_start session player hi _
    · intro _
      refine ⟨_, pulse, ?_⟩
      change Rhythm interval _ [] r.client.lastSnapshot (d.now + duration r.acts + d.client.settings.heartbeatInterval) _
      rw [lastSnapshot, h.settings]
      exact .start interval _
  | refused isNetwork same acts =>
    rw [if_neg (by rw [isNetwork]; exact Bool.false_ne_true)]
    have hacts : duration r.acts = 0 := congrArg duration acts
    have hclient : r.client = d.client := same
    rw [hacts, hclient]
    exact h.stay h.sound rfl (Client.hushed_refl _)
  | failed isNetwork held pulse =>
    -- whatever time was lost, there were no heartbeats that could have missed a check
    rw [if_neg (by rw [isNetwork]; exact Bool.false_ne_true)]
    refine h.hush hsound hsettings (Client.hushed_of_offline held pulse) (Nat.le_add_right _ _) ?_
    intro p hp
    cases pulse.symm.trans hp

/-- A page begins when the heartbeats do, and from then on the client may speak. -/
theorem Prompt.speaks_of_opens (h : Prompt interval d) {m : Moment} (hm : d.opens m = true) :
    (d.step m).client.Speaks ∧
      ∃ session player, (d.step m).client.pulse = some (.start session player interval (d.step m).began) := by
  have hstep : d.step m = ⟨d.timeline.moment m, (d.timeline.moment m).now, []⟩ := if_pos hm
  rw [hstep]
  cases m with
  | wait ms | check => cases hm
  | happens x hx =>
    cases x with
    | start endpoint server s =>
      have hnetwork : (d.client.start d.now endpoint server s).isNetwork = true := hm
      cases Client.startCall h.sound.toCoherent d.now endpoint server s with
      | opened isNetwork speaks session player pulse lastSnapshot said =>
        exact ⟨speaks, session, player, h.settings ▸ pulse⟩
      | refused isNetwork | failed isNetwork =>
        rw [hnetwork] at isNetwork
        cases isNetwork
    | _ => cases hm

theorem Prompt.wait (h : Prompt interval d) (hi : 0 < interval) (ms : Nat) : Prompt interval (d.step (.wait ms)) := by
  let until_ := d.now + d.client.lull d.now ms
  have hrest := h.sound.of_tended (Client.tended_rest d.client d.now until_)
  have hsame : (d.client.rest d.now until_).settings = d.client.settings ∧
      (d.client.rest d.now until_).pulse = d.client.pulse := by
    unfold Client.rest
    split <;> exact ⟨rfl, rfl⟩
  refine h.hush (t := ⟨d.client.rest d.now until_, until_⟩) hrest hsame.1 (Client.hushed_rest ..)
    (Nat.le_add_right _ _) ?_
  intro p hp hrunning
  have hp : d.client.pulse = some p := hsame.2.symm.trans hp
  obtain ⟨hpace, hahead, -⟩ := h.pulse p hp
  specialize hahead hrunning
  have hlive : p.stopped = false ∧ 0 < p.interval := ⟨hrunning, by rw [hpace]; exact hi⟩
  have hlull : d.client.lull d.now ms = min ms (p.next - d.now) := by
    rw [Client.lull, Client.nextCheck?, hp, Option.bind_some, if_pos hlive]
  change d.now + d.client.lull d.now ms ≤ p.next
  omega

theorem Prompt.step (h : Prompt interval d) (hi : 0 < interval) (m : Moment) : Prompt interval (d.step m) := by
  cases m with
  | wait ms => exact h.wait hi ms
  | check => exact h.check hi
  | happens x hx =>
    have hsound : (d.timeline.step x).client.Sound := Timeline.sound_step h.sound x
    have hsettings : (d.timeline.step x).client.settings = d.client.settings :=
      (Timeline.configured_run h.sound [x]).settings
    have hnote (hopens : d.timeline.opens x = false) : d.step (.happens x hx) = d.note (d.timeline.step x) :=
      if_neg (Bool.eq_false_iff.mp hopens)
    cases Timeline.stepCall h.sound hx with
    | start endpoint server s happening =>
      subst happening
      exact h.start hi endpoint server s
    | speak c objects opens hushed sound step =>
      rw [step] at hsettings
      have hkept := (Client.kept_sendSnapshot c d.timeline.now objects).settings
      rw [hnote opens, step]
      exact h.speak hi sound (hkept.symm.trans hsettings) hushed objects
    | hush opens hushed now =>
      rw [hnote opens]
      refine h.hush hsound hsettings hushed (Nat.le_of_eq now.symm) ?_
      intro p hp hrunning
      rw [now]
      exact (h.pulse p (hushed.pulse p hp)).ahead hrunning

theorem Prompt.run (h : Prompt interval d) (hi : 0 < interval) (ms : List Moment) : Prompt interval (d.run ms) := by
  induction ms generalizing d with
  | nil => exact h
  | cons m ms ih => exact ih (h.step hi m)

theorem timeline_run (d : Diary) (ms : List Moment) : (d.run ms).timeline = d.timeline.moments ms := by
  induction ms generalizing d with
  | nil => rfl
  | cons m ms ih =>
    have hstep : (d.step m).timeline = d.timeline.moment m := by
      unfold step
      split <;> rfl
    exact (ih (d.step m)).trans (by rw [hstep]; rfl)

/-- Whatever happens to a client happens in moments. -/
theorem Prompt.exists_moments (h : Prompt interval d) (hi : 0 < interval) (xs : List Happening) :
    ∃ ms, (d.run ms).timeline = d.timeline.run xs := by
  induction xs generalizing d with
  | nil => exact ⟨[], rfl⟩
  | cons x xs ih =>
    have hfirst : ∃ ms, d.timeline.moments ms = d.timeline.step x := by
      cases hx : x.isPass with
      | false => exact ⟨[.happens x hx], rfl⟩
      | true =>
        cases x with
        | pass ms => exact Timeline.moments_of_pass h.sound h.nextCheck_ahead ms
        | _ => cases hx
    obtain ⟨first, hfirst⟩ := hfirst
    obtain ⟨rest, hrest⟩ := ih (h.run hi first)
    refine ⟨first ++ rest, ?_⟩
    have hreached : (d.run first).timeline = d.timeline.step x := (timeline_run d first).trans hfirst
    have hsplit : d.run (first ++ rest) = (d.run first).run rest := List.foldl_append
    rw [hsplit, hrest, hreached]
    rfl

/-- From a start on until its session has ended or its channel is closed, a client queues a message within one
interval of the beginning of its heartbeats, and less than two intervals after each message the next one. Every
history of a client can be told in moments. -/
theorem keeps_alive (settings : Settings) (base : Url) (ms : List Moment) :
    let d := (begin settings base).run ms
    let interval := settings.validated.heartbeatInterval
    Paced interval d.began d.times ∧
    (∀ k, d.client.connections.held = some k → k.link.voice.texts = d.queued.map Prod.snd) ∧
    (∀ m, d.opens m = true → (d.step m).client.Speaks ∧
      ∃ session player, (d.step m).client.pulse = some (.start session player interval (d.step m).began)) ∧
    (d.client.Speaks →
      (d.times = [] → d.now ≤ d.began + interval) ∧ ∀ t ∈ d.times.getLast?, d.now < t + 2 * interval) ∧
    ∀ xs, ∃ ms', ((begin settings base).run ms').timeline = Timeline.run ⟨.fresh settings.validated base, 0⟩ xs := by
  intro d interval
  have hi : 0 < interval := settings.heartbeatInterval_pos
  have hbegin : Prompt interval (begin settings base) := prompt_begin settings base
  have h : Prompt interval d := hbegin.run hi ms
  refine ⟨h.paced, h.said, fun _ => h.speaks_of_opens, ?_, hbegin.exists_moments hi⟩
  intro hspeaks
  obtain ⟨p, -, hrhythm⟩ := h.rhythm hspeaks
  exact hrhythm.awake

/-- A snapshot half an interval after the start stands for the first heartbeat, so one and a half intervals go by
until the second one. -/
example :
    let grant : Grant := ⟨⟨⟨"a"⟩⟩, ⟨⟨"s"⟩, .running, []⟩⟩
    let base : Url := .wsHost
    let d := (begin .standard base).run [.happens (.start ⟨[.ok grant], 0⟩ ⟨.immediate, true⟩ .host) rfl, .wait 500,
      .happens (.sendSnapshot []) rfl, .wait 500, .check, .wait 1000, .check]
    d.times.map (· - d.began) = [500, 2000] := by
  decide +kernel

end Diary

end PaddleLink
