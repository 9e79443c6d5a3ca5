import PaddleLink.Proofs.Client.Kept
import PaddleLink.Proofs.Transport.Openness

namespace PaddleLink

namespace Connections

variable {c c' c'' : Connections}

def said (c : Connections) : List String :=
  (c.held.map fun k => k.link.voice.texts).getD []

theorem said_eq_of_held {k : Connection} (hk : c.held = some k) : c.said = k.link.voice.texts := by
  rw [said, hk]
  rfl

def Hushed (c c' : Connections) : Prop :=
  ∀ k', c'.held = some k' → ∃ k, c.held = some k ∧ k'.link.voice = k.link.voice ∧
    (k'.link.isOpen = true → k.link.isOpen = true)

theorem hushed_refl (c : Connections) : c.Hushed c :=
  fun k hk => ⟨k, hk, rfl, id⟩

theorem Hushed.trans (h : c.Hushed c') (h' : c'.Hushed c'') : c.Hushed c'' := by
  intro k'' hk''
  obtain ⟨k', hk', hvoice', hopen'⟩ := h' k'' hk''
  obtain ⟨k, hk, hvoice, hopen⟩ := h k' hk'
  exact ⟨k, hk, hvoice'.trans hvoice, hopen ∘ hopen'⟩

theorem Hushed.isOpen (h : c.Hushed c') (hopen : c'.isOpen = true) : c.isOpen = true := by
  obtain ⟨k', hk', hopen'⟩ := held_of_isOpen hopen
  obtain ⟨k, hk, -, hback⟩ := h k' hk'
  rw [Connections.isOpen, hk]
  exact hback hopen'

theorem Hushed.shut (h : c.Hushed c') (hshut : c.isOpen = false) : c'.isOpen = false :=
  Bool.eq_false_iff.mpr fun hopen => Bool.eq_false_iff.mp hshut (h.isOpen hopen)

theorem hushed_of_unheld (hheld : c'.held = none) : c.Hushed c' := by
  intro k' hk'
  rw [hheld] at hk'
  cases hk'

theorem hushed_of_map {f : Connection → Connection} (hvoice : ∀ k, (f k).link.voice = k.link.voice)
    (hopen : ∀ k, (f k).link.isOpen = true → k.link.isOpen = true) (hheld : c'.held = c.held.map f) : c.Hushed c' := by
  intro k' hk'
  rw [hheld] at hk'
  obtain ⟨k, hk, rfl⟩ := Option.map_eq_some_iff.mp hk'
  exact ⟨k, hk, hvoice k, hopen k⟩

theorem hushed_modify (i : Nat) {f : Connection → Connection} (hvoice : ∀ k, (f k).link.voice = k.link.voice)
    (hopen : ∀ k, (f k).link.isOpen = true → k.link.isOpen = true) : c.Hushed (c.modify i f) := by
  unfold modify
  split
  · exact fun k' hk' => ⟨k', hk', rfl, id⟩
  · split
    · exact hushed_of_map hvoice hopen rfl
    · exact hushed_refl c

/-- A channel that nothing was said on, as what was said on all channels tells. -/
theorem said_of_voices {k : Connection} {t : Target} (hk : c'.held = some k)
    (hvoices : c'.voices = c.voices ++ [⟨t, []⟩]) : c'.said = [] := by
  have hlast := congrArg List.getLast? hvoices
  rw [voices_eq, hk, Option.map_some, Option.toList_some, List.getLast?_concat, List.getLast?_concat] at hlast
  have hvoice : k.link.voice = ⟨t, []⟩ := Option.some.inj hlast
  rw [said_eq_of_held hk, hvoice]

/-- A new channel is open at first, even where nobody listens. -/
theorem isOpen_of_opened {now : Nat} {server : Server} {t : Target}
    (h : (c.connect now server t).result = .ok .opened) : (c.connect now server t).connections.isOpen = true := by
  unfold connect at h ⊢
  split at h
  · cases h
  · rename_i hnew
    rw [if_neg hnew]
    simp only at h ⊢
    split at h
    · cases h
    · unfold afterHandshake at h ⊢
      simp only at h ⊢
      split at h
      · exact isOpen_fresh ..
      · cases h

end Connections

namespace Client

variable {c c' c'' : Client}

def Speaks (c : Client) : Prop :=
  c.lobby.lifecycle = .running ∧ c.connections.isOpen = true

/-- Between two states of a client nothing is said, and what it takes to speak is not gained. -/
structure Hushed (c c' : Client) : Prop where
  connections : c.connections.Hushed c'.connections
  pulse : ∀ p, c'.pulse = some p → c.pulse = some p
  speaks : c'.Speaks → c.Speaks ∧ c'.pulse = c.pulse ∧ c'.lastSnapshot = c.lastSnapshot

theorem Hushed.trans (h : c.Hushed c') (h' : c'.Hushed c'') : c.Hushed c'' where
  connections := h.connections.trans h'.connections
  pulse := fun p hp => h.pulse p (h'.pulse p hp)
  speaks := by
    intro hspeaks
    obtain ⟨hspeaks', hpulse', hlast'⟩ := h'.speaks hspeaks
    obtain ⟨hspeaks, hpulse, hlast⟩ := h.speaks hspeaks'
    exact ⟨hspeaks, hpulse'.trans hpulse, hlast'.trans hlast⟩

theorem hushed_of_connections (hconnections : c.connections.Hushed c'.connections) (hlobby : c'.lobby = c.lobby)
    (hpulse : c'.pulse = c.pulse) (hlast : c'.lastSnapshot = c.lastSnapshot) : c.Hushed c' where
  connections := hconnections
  pulse := fun _ hp => hpulse ▸ hp
  speaks := fun hspeaks => ⟨⟨hlobby ▸ hspeaks.1, hconnections.isOpen hspeaks.2⟩, hpulse, hlast⟩

theorem hushed_of_same (hconnections : c'.connections = c.connections) (hlobby : c'.lobby = c.lobby)
    (hpulse : c'.pulse = c.pulse) (hlast : c'.lastSnapshot = c.lastSnapshot) : c.Hushed c' :=
  hushed_of_connections (hconnections ▸ Connections.hushed_refl _) hlobby hpulse hlast

theorem hushed_refl (c : Client) : c.Hushed c :=
  hushed_of_same rfl rfl rfl rfl

theorem hushed_of_offline (hheld : c'.connections.held = none) (hpulse : c'.pulse = none) : c.Hushed c' where
  connections := Connections.hushed_of_unheld hheld
  pulse := by
    intro p hp
    rw [hpulse] at hp
    cases hp
  speaks := by
    intro hspeaks
    obtain ⟨k, hk, -⟩ := Connections.held_of_isOpen hspeaks.2
    rw [hheld] at hk
    cases hk

theorem hushed_onConnection (i : Nat) {f : Connection → Connection} (hvoice : ∀ k, (f k).link.voice = k.link.voice)
    (hopen : ∀ k, (f k).link.isOpen = true → k.link.isOpen = true) : c.Hushed (c.onConnection i f) :=
  hushed_of_connections (Connections.hushed_modify i hvoice hopen) rfl rfl rfl

theorem hushed_settle (c : Client) (now : Nat) : c.Hushed (c.settle now) :=
  hushed_of_connections
    (Connections.hushed_of_map (fun k => Link.voice_settle k.link now) (fun _ => Link.isOpen_of_settle) rfl) rfl rfl rfl

/-- A snapshot is sent by a client that may speak. -/
theorem sendSnapshot_cases (c : Client) (now : Nat) (objects : List GameObject) :
    (c.sendSnapshot now objects).1 = c ∨ ∃ text, c.Speaks ∧ (c.sendSnapshot now objects).1 =
      { c with connections := c.connections.mapHeld fun l => l.send text, lastSnapshot := some now } := by
  unfold sendSnapshot
  split
  · exact .inl rfl
  · rename_i m hm
    split
    · rename_i hopen
      refine .inr ⟨_, ⟨?_, hopen⟩, rfl⟩
      unfold snapshotNow? at hm
      split at hm
      · assumption
      · cases hm
    · exact .inl rfl

theorem hushed_takeBatch (hattentive : c.Attentive) (batch : List Event) : c.Hushed (c.takeBatch batch) := by
  obtain ⟨hlobby, hconnections, -, -, hlast, hpulse⟩ := takeBatch_parts c batch hattentive
  refine ⟨hconnections ▸ Connections.hushed_refl _, ?_, ?_⟩
  · intro p hp
    rw [hpulse] at hp
    split at hp
    · cases hp
    · exact hp
  · rintro ⟨hrunning, hopen⟩
    rw [hlobby] at hrunning
    rw [hconnections] at hopen
    have hbefore : c.lobby.lifecycle = .running := by
      rcases Lobby.lifecycle_after_reconcileAll c.lobby (sessionEvents batch) with hsame | hclosed
      · exact hsame.symm.trans hrunning
      · rw [hclosed] at hrunning
        cases hrunning
    refine ⟨⟨hbefore, hopen⟩, ?_, hlast⟩
    rw [hpulse, if_neg]
    rintro ⟨-, hclosed⟩
    rw [hrunning] at hclosed
    cases hclosed

theorem hushed_pump (hattentive : c.Attentive) : c.Hushed c.pump.1 := by
  refine pump_keeps (P := c.Hushed) hattentive ?_ ?_ ?_ ?_
  · unfold clearNotices
    split
    · exact hushed_onConnection _ (fun _ => rfl) fun _ h => h
    · exact hushed_of_same rfl rfl rfl rfl
  · exact fun d batch hd h => h.trans (hushed_takeBatch hd batch)
  · exact fun d reason h => h.trans (hushed_of_offline rfl rfl)
  · exact fun d h => h.trans (hushed_of_same rfl rfl rfl rfl)

/-- What a start comes to for what it takes to speak: new heartbeats on a new channel, or nothing. A start that is
refused takes no time. -/
inductive StartCall (c : Client) (now : Nat) (r : Started) : Prop where
  | opened (isNetwork : r.isNetwork = true) (speaks : r.client.Speaks) (session : SessionId) (player : ActorId)
    (pulse : r.client.pulse = some (.start session player c.settings.heartbeatInterval (now + duration r.acts)))
    (lastSnapshot : r.client.lastSnapshot = none) (said : r.client.connections.said = [])
  | refused (isNetwork : r.isNetwork = false) (same : r.client = c) (acts : r.acts = [])
  | failed (isNetwork : r.isNetwork = false) (held : r.client.connections.held = none) (pulse : r.client.pulse = none)

theorem duration_concat_wait (acts : List Act) (ms : Nat) : duration (acts ++ [.wait ms]) = duration acts + ms := by
  induction acts with
  | nil => simp [duration]
  | cons a acts ih => cases a <;> simp [duration, ih, Nat.add_assoc]

theorem startCall_of_granted {d : Client} (now : Nat) (server : Server) (s : NetworkSession) (acts : List Act)
    (hheld : d.connections.held = none) (hpulse : d.pulse = none) (hsettings : d.settings = c.settings)
    (hrunning : d.lobby.lifecycle = .running) :
    let opened := d.openChannel (now + duration acts) server s
    c.StartCall now { opened with acts := acts ++ opened.acts } := by
  intro opened
  have houtcome := d.connections.connectOutcome (now + duration acts) server s.target
  have hopened : opened = d.openChannel (now + duration acts) server s := rfl
  unfold openChannel at hopened
  simp only at hopened
  cases houtcome with
  | alreadyOpen result isOpen =>
    rw [Connections.isOpen, hheld] at isOpen
    cases isOpen
  | opened k result held target whole voices =>
    have isOpen := Connections.isOpen_of_opened result
    rw [NetworkSession.target] at result held voices isOpen
    rw [result] at hopened
    rw [hopened]
    refine .opened rfl ⟨hrunning, isOpen⟩ s.id s.me.id ?_ rfl (Connections.said_of_voices held voices)
    rw [duration_concat_wait, ← Nat.add_assoc, ← hsettings]
    rfl
  | failed e result held voices =>
    rw [NetworkSession.target] at result held
    rw [result] at hopened
    rw [hopened]
    exact .failed rfl held hpulse

theorem startCall (h : c.Coherent) (now : Nat) (endpoint : Endpoint) (server : Server) (s : Start) :
    c.StartCall now (c.start now endpoint server s) := by
  obtain ⟨course, houtcome, hstart⟩ := c.start_cases now endpoint server s
  rw [hstart]
  cases houtcome with
  | busy hl => exact .refused rfl rfl rfl
  | solo acts hl hs after =>
    obtain ⟨hheld, -, hpulse⟩ := h.idle hl
    have hwait := waited_passDuring c now acts hheld
    exact .failed rfl hwait.held (hwait.pulse.trans hpulse)
  | failed acts r e hl hr answer after =>
    obtain ⟨hheld, -, hpulse⟩ := h.idle hl
    have hwait := waited_passDuring c now acts hheld
    exact .failed rfl hwait.held (hwait.pulse.trans hpulse)
  | granted acts r g hl hr answer after =>
    obtain ⟨hheld, -, hpulse⟩ := h.idle hl
    have hwait := waited_passDuring c now acts hheld
    have hrunning : ((c.passDuring now acts).perform acts).lobby.lifecycle = .running := by
      change ((c.passDuring now acts).lobby.after acts).lifecycle = .running
      rw [(alike_passDuring c now acts).lobby, after]
    exact startCall_of_granted now server (g.sessionAs r.role) acts hwait.held (hwait.pulse.trans hpulse)
      (kept_passDuring c now acts).settings hrunning

end Client

end PaddleLink
