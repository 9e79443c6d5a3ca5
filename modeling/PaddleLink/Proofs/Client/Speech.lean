import Mathlib.Data.List.Forall2
import PaddleLink.Proofs.Client.Resources

/-!
What a client says on its channels, and in whose name. The server's answer to a start settles both for the
channel of that start, and nothing that comes in later changes them.
-/

namespace PaddleLink

/-- A message that may be sent for an identity. Only players send snapshots, each with the inputs of its own
slot, and only the host knows where the objects are. -/
def Message.FitsFor (t : Target) : Message → Prop
  | .heartbeat h => h.session = t.session ∧ h.player = t.actor
  | .snapshot s =>
    s.session = t.session ∧ s.player = t.actor ∧
      match t.role with
      | .host => s.objects.isSome ∧ ∀ i ∈ s.inputs, i.slot = .one
      | .peer => s.objects = none ∧ ∀ i ∈ s.inputs, i.slot = .two
      | .solo | .observer => False

theorem snapshot?_network (s : NetworkSession) (b : Keyboard) (objects : List GameObject) (time : UInt64) :
    snapshot? (.network s) b objects time =
      if s.state = .closed then none
      else s.role.keyboardSlot.map fun slot =>
        ⟨s.id, b.inputsFor slot, if s.role = .host then some objects else none, s.me.id, time⟩ := by
  by_cases hclosed : s.state = .closed
  · simp [snapshot?, Session.network?, guard, hclosed]
  · cases hslot : s.role.keyboardSlot with
    | none => simp [snapshot?, Session.network?, guard, hclosed, hslot]
    | some slot => simp [snapshot?, Session.network?, guard, hclosed, hslot]

/-- A snapshot is made for a session that is not closed, in the name and the role of the client. -/
theorem snapshot?_fits {session : Session} {b : Keyboard} {objects : List GameObject} {time : UInt64} {m : Snapshot}
    (h : snapshot? session b objects time = some m) :
    ∃ s, session = .network s ∧ s.state ≠ .closed ∧ (Message.snapshot m).FitsFor s.target := by
  cases session with
  | solo => cases h
  | network s =>
    rw [snapshot?_network] at h
    split at h
    · cases h
    · rename_i hopen
      obtain ⟨slot, hslot, rfl⟩ := Option.map_eq_some_iff.mp h
      refine ⟨s, rfl, hopen, rfl, rfl, ?_⟩
      unfold NetworkSession.target
      cases hrole : s.role with
      | host =>
        rw [hrole] at hslot
        cases hslot
        exact ⟨rfl, fun i hi => Keyboard.slot_of_mem_inputsFor hi⟩
      | peer =>
        rw [hrole] at hslot
        cases hslot
        exact ⟨rfl, fun i hi => Keyboard.slot_of_mem_inputsFor hi⟩
      | solo =>
        rw [hrole] at hslot
        cases hslot
      | observer =>
        rw [hrole] at hslot
        cases hslot

namespace Client

variable {c c' c'' : Client}

/-- Nothing is said between two states of a client, and it does not become somebody else. It may lose its session
or its heartbeats. -/
structure Mute (c c' : Client) : Prop where
  voices : c'.connections.voices = c.connections.voices
  session : ∀ s', c'.lobby.session = some (.network s') →
    ∃ s, c.lobby.session = some (.network s) ∧ s'.target = s.target
  pulse : ∀ p', c'.pulse = some p' → ∃ p, c.pulse = some p ∧ p'.session = p.session ∧ p'.player = p.player

theorem Mute.trans (h : c.Mute c') (h' : c'.Mute c'') : c.Mute c'' := by
  refine ⟨h'.voices.trans h.voices, ?_, ?_⟩
  · intro s'' hs''
    obtain ⟨s', hs', ht'⟩ := h'.session s'' hs''
    obtain ⟨s, hs, ht⟩ := h.session s' hs'
    exact ⟨s, hs, ht'.trans ht⟩
  · intro p'' hp''
    obtain ⟨p', hp', hsession', hplayer'⟩ := h'.pulse p'' hp''
    obtain ⟨p, hp, hsession, hplayer⟩ := h.pulse p' hp'
    exact ⟨p, hp, hsession'.trans hsession, hplayer'.trans hplayer⟩

theorem mute_of_same (hvoices : c'.connections.voices = c.connections.voices) (hlobby : c'.lobby = c.lobby)
    (hpulse : c'.pulse = c.pulse) : c.Mute c' where
  voices := hvoices
  session := fun s' hs' => ⟨s', hlobby ▸ hs', rfl⟩
  pulse := fun p' hp' => ⟨p', hpulse ▸ hp', rfl, rfl⟩

theorem mute_settle (c : Client) (now : Nat) : c.Mute (c.settle now) :=
  mute_of_same (Connections.voices_settle _ now) rfl rfl

/-- The server may change the session, but not who the client is in it. -/
theorem mute_takeBatch (hattentive : c.Attentive) (batch : List Event) : c.Mute (c.takeBatch batch) := by
  obtain ⟨hlobby, hconnections, -, -, -, hpulse⟩ := takeBatch_parts c batch hattentive
  refine ⟨by rw [hconnections], ?_, ?_⟩
  · intro s' hs'
    have hseat := Lobby.seat_after_reconcileAll c.lobby (sessionEvents batch)
    rw [← hlobby, hs', eq_comm] at hseat
    obtain ⟨t, ht, hts⟩ := Option.map_eq_some_iff.mp hseat
    obtain ⟨s, rfl, hid, hrole, hme⟩ := Session.seat_eq_of_network hts
    exact ⟨s, ht, by rw [NetworkSession.target, NetworkSession.target, hid, hrole, hme]⟩
  · intro p' hp'
    rw [hpulse] at hp'
    split at hp'
    · cases hp'
    · exact ⟨p', hp', rfl, rfl⟩

theorem mute_takeLoss (c : Client) (reason : Option String) : c.Mute (c.takeLoss reason) where
  voices := Connections.voices_close _
  session := fun s' hs' => ⟨s', hs', rfl⟩
  pulse := fun _ hp' => by cases hp'

theorem mute_pump (hattentive : c.Attentive) : c.Mute c.pump.1 := by
  refine pump_keeps (P := c.Mute) hattentive ?_ ?_ ?_ ?_
  · unfold clearNotices
    split
    · exact mute_of_same (Connections.voices_modify _ _ fun _ => rfl) rfl rfl
    · exact mute_of_same rfl rfl rfl
  · exact fun d batch hd h => h.trans (mute_takeBatch hd batch)
  · exact fun d reason h => h.trans (mute_takeLoss d reason)
  · exact fun d h => h.trans (mute_of_same rfl rfl rfl)

theorem mute_reset (c : Client) : c.Mute c.reset where
  voices := Connections.voices_close _
  session := fun _ hs' => by cases hs'
  pulse := fun _ hp' => by cases hp'

theorem sendSnapshot_offline (now : Nat) (objects : List GameObject)
    (h : ∀ s, c.lobby.session ≠ some (.network s)) : (c.sendSnapshot now objects).1 = c := by
  have hnone : c.snapshotNow? now objects = none := by
    unfold snapshotNow?
    split
    · cases hs : c.lobby.session with
      | none => rfl
      | some session =>
        cases session with
        | solo => rfl
        | network s => exact absurd hs (h s)
    · rfl
  rw [sendSnapshot, hnone]

/-- Without heartbeats time passes in silence. -/
theorem mute_pass (now until_ : Nat) (h : c.pulse = none) : c.Mute (c.pass now until_) := by
  rcases pass_cases c now until_ with hrest | ⟨p, k, hp, -⟩
  · rw [hrest]
    exact mute_settle c now
  · change c.pulse = some p at hp
    rw [h] at hp
    cases hp

end Client

def Origin.target (o : Origin) : Target :=
  ⟨o.grant.session.id, o.grant.actor.id, o.request.role⟩

/-- A channel that was opened for the granted identity, and on which nothing was queued but messages that fit. -/
def Origin.Owns (o : Origin) (v : Voice) : Prop :=
  v.target = o.target ∧ ∀ text ∈ v.texts, ∃ m : Message, text = writeMessage m ∧ m.FitsFor o.target

theorem Origin.owns_empty (o : Origin) : o.Owns ⟨o.target, []⟩ :=
  ⟨rfl, fun _ h => by cases h⟩

theorem Origin.Owns.send {o : Origin} {l : Link} (h : o.Owns l.voice) {m : Message} (hm : m.FitsFor o.target) :
    o.Owns (l.send (writeMessage m)).voice := by
  rw [Link.voice_send]
  split
  · refine ⟨h.1, fun text htext => ?_⟩
    rcases List.mem_append.mp htext with hold | hnew
    · exact h.2 text hold
    · exact ⟨m, List.mem_singleton.mp hnew, hm⟩
  · exact h

/-- The last item of a list may be replaced by one that still goes with its partner. -/
theorem forall₂_replace_last {α β : Type} {R : α → β → Prop} {as : List α} {bs : List β} {b b' : β}
    (h : List.Forall₂ R as (bs ++ [b])) (hb : ∀ a, as.getLast? = some a → R a b → R a b') :
    List.Forall₂ R as (bs ++ [b']) := by
  induction bs generalizing as with
  | nil =>
    cases h with
    | cons ha hrest =>
      cases hrest
      exact .cons (hb _ rfl ha) .nil
  | cons b₀ bs ih =>
    cases h with
    | cons ha hrest =>
      refine .cons ha (ih hrest fun a hlast => hb a ?_)
      rw [List.getLast?_cons, hlast]
      rfl

namespace Client

/-- Every channel keeps to its origin, and the session and the heartbeats are those of the last one. -/
structure Faithful (os : List Origin) (c : Client) : Prop where
  owned : List.Forall₂ Origin.Owns os c.connections.voices
  session : ∀ s, c.lobby.session = some (.network s) → ∃ o, os.getLast? = some o ∧ s.target = o.target
  pulse : ∀ p, c.pulse = some p →
    ∃ o, os.getLast? = some o ∧ p.session = o.grant.session.id ∧ p.player = o.grant.actor.id

variable {c c' : Client} {os : List Origin}

theorem faithful_fresh (settings : Settings) (base : Url) : (fresh settings base).Faithful [] where
  owned := .nil
  session := fun _ h => by cases h
  pulse := fun _ h => by cases h

theorem Faithful.of_mute (h : c.Faithful os) (hm : c.Mute c') : c'.Faithful os := by
  refine ⟨hm.voices ▸ h.owned, ?_, ?_⟩
  · intro s' hs'
    obtain ⟨s, hs, ht⟩ := hm.session s' hs'
    obtain ⟨o, ho, hto⟩ := h.session s hs
    exact ⟨o, ho, ht.trans hto⟩
  · intro p' hp'
    obtain ⟨p, hp, hsession, hplayer⟩ := hm.pulse p' hp'
    obtain ⟨o, ho, hso, hpo⟩ := h.pulse p hp
    exact ⟨o, ho, hsession.trans hso, hplayer.trans hpo⟩

/-- Only the last channel is spoken on. -/
theorem Faithful.owned_mapHeld (h : c.Faithful os) {f : Link → Link}
    (hf : ∀ o l, os.getLast? = some o → o.Owns l.voice → o.Owns (f l).voice) :
    List.Forall₂ Origin.Owns os (c.connections.mapHeld f).voices := by
  have hall := h.owned
  rw [Connections.voices_eq] at hall ⊢
  cases hk : c.connections.held with
  | none =>
    rw [hk] at hall
    simpa [Connections.mapHeld, hk] using hall
  | some k =>
    rw [hk] at hall
    have hnew : (c.connections.mapHeld f).held = some (k.mapLink f) := by rw [Connections.mapHeld, hk]; rfl
    rw [hnew]
    exact forall₂_replace_last hall fun o ho => hf o k.link ho

theorem faithful_sendSnapshot (h : c.Faithful os) (now : Nat) (objects : List GameObject) :
    (c.sendSnapshot now objects).1.Faithful os := by
  unfold sendSnapshot
  split
  · exact h
  · rename_i m hm
    split
    · refine ⟨h.owned_mapHeld fun o l ho hl => hl.send ?_, h.session, h.pulse⟩
      unfold snapshotNow? at hm
      split at hm
      · obtain ⟨session, hsession, hsnapshot⟩ := Option.bind_eq_some_iff.mp hm
        obtain ⟨s, rfl, -, hfits⟩ := snapshot?_fits hsnapshot
        obtain ⟨o', ho', htarget⟩ := h.session s hsession
        rw [ho] at ho'
        cases ho'
        exact htarget ▸ hfits
      · cases hm
    · exact h

theorem faithful_pass (h : c.Faithful os) (now until_ : Nat) : (c.pass now until_).Faithful os := by
  have hs : (c.settle now).Faithful os := h.of_mute (mute_settle c now)
  rcases pass_cases c now until_ with hrest | ⟨p, k, hp, -, hpass⟩
  · rw [hrest]
    exact hs
  · rw [hpass]
    obtain ⟨o, ho, hid⟩ := hs.pulse p hp
    have hturn : ∀ l now, o.Owns (Link.voice l) → o.Owns (l.turn now).voice := by
      intro l now hl
      rw [Link.voice_turn]
      exact hl
    have hbeat : ∀ (l : Link) time, o.Owns l.voice →
        o.Owns (l.send (writeMessage (.heartbeat ⟨o.grant.session.id, o.grant.actor.id, time⟩))).voice :=
      fun l time hl => hl.send ⟨rfl, rfl⟩
    refine ⟨hs.owned_mapHeld fun o' l ho' hl => ?_, hs.session, ?_⟩
    · rw [ho] at ho'
      cases ho'
      exact (Pulse.run_keeps (P := fun l => o.Owns l.voice) _ _ hturn hbeat p c.lastSnapshot l now until_ hid hl).2
    · intro p' hp'
      cases hp'
      obtain ⟨hsession, hplayer⟩ := p.run_identity c.lastSnapshot k.link now until_
      exact ⟨o, ho, hsession.trans hid.1, hplayer.trans hid.2⟩

end Client

namespace Timeline

/-- Play without a server is silent, from its start on. -/
theorem voices_step_of_solo {t : Timeline} (hsound : t.client.Sound) (x : Happening)
    (hsolo : t.client.lobby.session = some .solo ∨ (t.step x).client.lobby.session = some .solo) :
    (t.step x).client.connections.voices = t.client.connections.voices := by
  have hoffline : ∀ c : Client, t.client.Mute c → (t.step x).client.lobby = c.lobby →
      ∀ s, c.lobby.session ≠ some (.network s) := by
    intro c hm hl s hs
    rcases hsolo with hbefore | hafter
    · obtain ⟨s', hs', -⟩ := hm.session s hs
      rw [hbefore] at hs'
      cases hs'
    · rw [hl, hs] at hafter
      cases hafter
  have hrefl : t.client.Mute t.client := Client.mute_of_same rfl rfl rfl
  have hpump : t.client.Mute t.client.pump.1 := Client.mute_pump hsound.attentive
  cases stepOutcome hsound x with
  | start endpoint server s happening ended =>
    have hidle : t.client.lobby.lifecycle = .uninitialized → (t.step x).client.lobby.session = some .solo := by
      intro hl
      refine hsolo.resolve_left fun hbefore => ?_
      rw [hsound.begun.mp hl] at hbefore
      cases hbefore
    cases ended with
    | busy hl same => rw [same]
    | failed e hl lobby waited => exact waited.voices
    | solo hl request lobby waited => exact waited.voices
    | opened request g k p hl hrequest answer lobby =>
      have hsession := hidle hl
      rw [lobby] at hsession
      cases hsession
    | aborted request g e hl hrequest answer lobby =>
      have hsession := hidle hl
      rw [lobby] at hsession
      cases hsession
  | pump origin client =>
    rw [client]
    exact hpump.voices
  | frame objects origin client =>
    have hl : (t.step x).client.lobby = t.client.pump.1.lobby := by
      rw [client]
      exact (Client.alike_sendSnapshot _ _ _).lobby
    rw [client, Client.sendSnapshot_offline _ _ (hoffline _ hpump hl)]
    exact hpump.voices
  | sendSnapshot objects origin client =>
    have hl : (t.step x).client.lobby = t.client.lobby := by
      rw [client]
      exact (Client.alike_sendSnapshot _ _ _).lobby
    rw [client]
    exact congrArg (fun c => c.connections.voices) (Client.sendSnapshot_offline _ _ (hoffline _ hrefl hl))
  | reset happening client =>
    rw [client]
    exact (Client.mute_reset _).voices
  | pass until_ origin client =>
    have hl : (t.step x).client.lobby = t.client.lobby := by
      rw [client]
      exact (Client.alike_pass _ _ _).lobby
    rw [client]
    exact (Client.mute_pass _ _ (hsound.offline (hoffline _ hrefl hl)).2.2).voices
  | quiet origin tended pulse voices => exact voices

end Timeline

namespace Register

variable {r : Register}

theorem sound_step (h : r.client.Sound) (x : Happening) : (r.step x).client.Sound :=
  Timeline.sound_step h x

theorem origins_step_of_no_origin (r : Register) {x : Happening} (hx : x.origin? = none) :
    (r.step x).origins = r.origins := by
  simp [step, hx]

theorem origin?_start {endpoint : Endpoint} (server : Server) {s : Start} {request : Request} {g : Grant}
    (hrequest : s.request? = some request) (answer : endpoint.answer = .ok g) :
    (Happening.start endpoint server s).origin? = some ⟨request, g⟩ := by
  simp only [Happening.origin?, hrequest, answer]

theorem origins_step_of_same (r : Register) {x : Happening}
    (h : (r.step x).client.connections.voices = r.client.connections.voices) : (r.step x).origins = r.origins := by
  have hlength : (r.timeline.step x).client.connections.all.length = r.client.connections.all.length := by
    have := congrArg List.length h
    rwa [Connections.voices, Connections.voices, List.length_map, List.length_map] at this
  simp [step, hlength]

theorem origins_step_of_more (r : Register) {x : Happening} {o : Origin} {v : Voice} (hx : x.origin? = some o)
    (h : (r.step x).client.connections.voices = r.client.connections.voices ++ [v]) :
    (r.step x).origins = r.origins ++ [o] := by
  have hlength : (r.timeline.step x).client.connections.all.length = r.client.connections.all.length + 1 := by
    have := congrArg List.length h
    rwa [Connections.voices, Connections.voices, List.length_append, List.length_map, List.length_map] at this
  simp [step, hlength, hx]

/-- What starts, the server's news, snapshots, resets and waiting keep, and everything quiet as well, is kept by
every run. -/
theorem run_keeps {Q : List Origin → Client → Prop}
    (hstart : ∀ (r : Register) (endpoint : Endpoint) (server : Server) (s : Start), r.client.Sound →
      r.client.StartEnd endpoint s (r.step (.start endpoint server s)).client → Q r.origins r.client →
      Q (r.step (.start endpoint server s)).origins (r.step (.start endpoint server s)).client)
    (hpump : ∀ os c, c.Sound → Q os c → Q os c.pump.1)
    (hsend : ∀ os c now objects, Q os c → Q os (Client.sendSnapshot c now objects).1)
    (hreset : ∀ os c, Q os c → Q os c.reset)
    (hpass : ∀ os c now until_, Q os c → Q os (Client.pass c now until_))
    (hquiet : ∀ os c c', c'.lobby = c.lobby → c'.pulse = c.pulse → c'.connections.voices = c.connections.voices →
      Q os c → Q os c')
    (hsound : r.client.Sound) (h : Q r.origins r.client) (xs : List Happening) :
    (r.run xs).client.Sound ∧ Q (r.run xs).origins (r.run xs).client := by
  induction xs generalizing r with
  | nil => exact ⟨hsound, h⟩
  | cons x xs ih =>
    refine ih (sound_step hsound x) ?_
    have hkept : ∀ c, x.origin? = none → Q r.origins c → Q (r.step x).origins c :=
      fun c hx hc => r.origins_step_of_no_origin hx ▸ hc
    change Q (r.step x).origins (r.timeline.step x).client
    cases Timeline.stepOutcome hsound x with
    | start endpoint server s happening ended =>
      subst happening
      exact hstart r endpoint server s hsound ended h
    | pump origin client =>
      rw [client]
      exact hkept _ origin (hpump _ _ hsound h)
    | frame objects origin client =>
      rw [client]
      exact hkept _ origin (hsend _ _ _ _ (hpump _ _ hsound h))
    | sendSnapshot objects origin client =>
      rw [client]
      exact hkept _ origin (hsend _ _ _ _ h)
    | reset happening client =>
      rw [client]
      exact hkept _ (by rw [happening]; rfl) (hreset _ _ h)
    | pass until_ origin client =>
      rw [client]
      exact hkept _ origin (hpass _ _ _ _ h)
    | quiet origin tended pulse voices => exact hkept _ origin (hquiet _ _ _ tended.lobby pulse voices h)

theorem faithful_start (hsound : r.client.Sound) (h : r.client.Faithful r.origins) {endpoint : Endpoint}
    {server : Server} {s : Start} (ended : r.client.StartEnd endpoint s (r.step (.start endpoint server s)).client) :
    (r.step (.start endpoint server s)).client.Faithful (r.step (.start endpoint server s)).origins := by
  cases ended with
  | busy hl same =>
    rw [r.origins_step_of_same (by rw [same]), same]
    exact h
  | failed e hl lobby waited =>
    rw [r.origins_step_of_same waited.voices]
    exact h.of_mute ⟨waited.voices, fun s' hs' => ⟨s', by rw [← hs', lobby], rfl⟩, fun p' hp' =>
      ⟨p', by rw [← hp', waited.pulse], rfl, rfl⟩⟩
  | solo hl request lobby waited =>
    rw [r.origins_step_of_same waited.voices]
    refine h.of_mute ⟨waited.voices, fun s' hs' => ?_, fun p' hp' => ⟨p', by rw [← hp', waited.pulse], rfl, rfl⟩⟩
    rw [lobby] at hs'
    cases hs'
  | opened request g k p hl hrequest answer lobby held target whole inbound pulse identity voices topics =>
    have hx := origin?_start server hrequest answer
    rw [r.origins_step_of_more hx voices]
    refine ⟨?_, ?_, ?_⟩
    · rw [voices]
      exact List.rel_append h.owned (.cons (Origin.owns_empty ⟨request, g⟩) .nil)
    · intro s' hs'
      rw [lobby] at hs'
      cases hs'
      exact ⟨⟨request, g⟩, List.getLast?_concat, rfl⟩
    · intro p' hp'
      rw [pulse] at hp'
      cases hp'
      exact ⟨⟨request, g⟩, List.getLast?_concat, identity⟩
  -- the channel that was given up, if there is one, was never spoken on
  | aborted request g e hl hrequest answer lobby held inbound pulse voices topics =>
    have hx := origin?_start server hrequest answer
    have hsilent : (r.step (.start endpoint server s)).client.pulse = none := pulse.trans (hsound.idle hl).2.2
    refine ⟨?_, ?_, ?_⟩
    · rcases voices with hsame | hmore
      · rw [r.origins_step_of_same hsame, hsame]
        exact h.owned
      · rw [r.origins_step_of_more hx hmore, hmore]
        exact List.rel_append h.owned (.cons (Origin.owns_empty ⟨request, g⟩) .nil)
    · intro s' hs'
      rw [lobby] at hs'
      cases hs'
    · intro p' hp'
      rw [hsilent] at hp'
      cases hp'

theorem faithful_run (settings : Settings) (base : Url) (xs : List Happening) :
    let r := (begin settings base).run xs
    r.client.Sound ∧ r.client.Faithful r.origins :=
  run_keeps (r := begin settings base) (Q := fun os c => c.Faithful os)
    (fun _ _ _ _ hsound ended h => faithful_start hsound h ended)
    (fun _ _ hsound h => h.of_mute (Client.mute_pump hsound.attentive))
    (fun _ _ now objects h => Client.faithful_sendSnapshot h now objects)
    (fun _ c h => h.of_mute (Client.mute_reset c))
    (fun _ _ now until_ h => Client.faithful_pass h now until_)
    (fun _ _ _ hlobby hpulse hvoices h => h.of_mute (Client.mute_of_same hvoices hlobby hpulse))
    (Client.sound_fresh settings base) (Client.faithful_fresh settings base) xs

/-- Whatever the server and the other players send, a client speaks only for the identity that it was granted
when the channel was opened, and only as its role allows. -/
theorem speaks_as_granted (settings : Settings) (base : Url) (xs : List Happening) :
    let r := (begin settings base).run xs
    List.Forall₂ Origin.Owns r.origins r.client.connections.voices ∧
    ∀ x, r.client.lobby.session = some .solo ∨ (r.step x).client.lobby.session = some .solo →
      (r.step x).client.connections.voices = r.client.connections.voices := by
  intro r
  obtain ⟨hsound, hfaithful⟩ := faithful_run settings base xs
  exact ⟨hfaithful.owned, fun x => Timeline.voices_step_of_solo hsound x⟩

end Register

end PaddleLink
