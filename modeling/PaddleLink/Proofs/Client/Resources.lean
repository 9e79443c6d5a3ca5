import PaddleLink.Proofs.Client.Start

/-!
What a client holds: its session, its channel, the stream of notices that it listens to and the heartbeats.
They are made and given up apart from each other, and at every time between two operations they fit together.
-/

namespace PaddleLink

/-- The notices up to a loss are batches, with nothing but the loss behind them. -/
theorem Notice.upToLoss_cases (ns : List Notice) :
    (∃ bs : List (List Event), ns = bs.map Notice.batch ∧ upToLoss ns = bs.map Notice.batch) ∨
      ∃ (bs : List (List Event)) (reason : Option String), upToLoss ns = bs.map Notice.batch ++ [.closed reason] := by
  induction ns with
  | nil => exact .inl ⟨[], rfl, rfl⟩
  | cons n ns ih =>
    cases n with
    | closed reason => exact .inr ⟨[], reason, rfl⟩
    | batch events =>
      rcases ih with ⟨bs, hns, hread⟩ | ⟨bs, reason, hread⟩
      · exact .inl ⟨events :: bs, by rw [hns]; rfl, by rw [upToLoss, hread]; rfl⟩
      · exact .inr ⟨events :: bs, reason, by rw [upToLoss, hread]; rfl⟩

namespace Client

/-- The channel that a client holds is the one it listens to and belongs to its session, and heartbeats go out
only on a channel of a session that runs. -/
structure Coherent (c : Client) : Prop where
  begun : c.lobby.Begun
  quiet : c.lobby.status.loading = false
  attentive : c.Attentive
  inbound : c.inbound = c.connections.held.map fun _ => c.connections.past.length
  target : ∀ k, c.connections.held = some k →
    ∃ s, c.lobby.session = some (.network s) ∧ k.link.target = s.target
  pulse : c.pulse.isSome → c.lobby.lifecycle = .running ∧ c.connections.held.isSome

/-- Moreover the loop of the held channel has not ended without telling of it. -/
structure Sound (c : Client) : Prop extends Coherent c where
  whole : ∀ k, c.connections.held = some k → k.link.Whole

variable {c c' : Client}

theorem sound_of_offline (begun : c.lobby.Begun) (quiet : c.lobby.status.loading = false)
    (attentive : c.Attentive) (held : c.connections.held = none) (inbound : c.inbound = none)
    (pulse : c.pulse = none) : c.Sound := by
  refine ⟨⟨begun, quiet, attentive, ?_, ?_, ?_⟩, ?_⟩
  · rw [inbound, held]
    rfl
  · intro k hk
    rw [held] at hk
    cases hk
  · intro hp
    rw [pulse] at hp
    cases hp
  · intro k hk
    rw [held] at hk
    cases hk

theorem sound_fresh (settings : Settings) (base : Url) : (fresh settings base).Sound :=
  sound_of_offline Lobby.begun_initial rfl ⟨rfl, rfl, Nat.zero_le _⟩ rfl rfl rfl

/-- Without a session with a server there is neither a channel nor a heartbeat. -/
theorem Coherent.offline (h : c.Coherent) (hs : ∀ s, c.lobby.session ≠ some (.network s)) :
    c.connections.held = none ∧ c.inbound = none ∧ c.pulse = none := by
  have hheld : c.connections.held = none := by
    cases hk : c.connections.held with
    | none => rfl
    | some k =>
      obtain ⟨s, hsession, -⟩ := h.target k hk
      exact absurd hsession (hs s)
  refine ⟨hheld, by rw [h.inbound, hheld]; rfl, ?_⟩
  cases hp : c.pulse with
  | none => rfl
  | some p =>
    have hopen := (h.pulse (by rw [hp]; rfl)).2
    rw [hheld] at hopen
    cases hopen

theorem Coherent.idle (h : c.Coherent) (hl : c.lobby.lifecycle = .uninitialized) :
    c.connections.held = none ∧ c.inbound = none ∧ c.pulse = none := by
  apply h.offline
  intro s hs
  rw [h.begun.mp hl] at hs
  cases hs

theorem Coherent.listened?_eq (h : c.Coherent) : c.listened? = c.connections.held := by
  rw [listened?, h.inbound]
  cases hk : c.connections.held with
  | none => rfl
  | some k => simp [Connections.all, hk]

/-- Two states of a client with the same session, which listens to the same channel. What has been queued, sent
and told on the channel may differ. -/
structure Tended (c c' : Client) : Prop where
  lobby : c'.lobby = c.lobby
  inbound : c'.inbound = c.inbound
  pulse : c'.pulse.isSome = c.pulse.isSome
  streams : c'.topics.closed = c.topics.closed
  feeds : c'.feeds = c.feeds
  room : c.ticks.length ≤ tickLimit → c'.ticks.length ≤ tickLimit
  past : c'.connections.past.length = c.connections.past.length
  held : ∃ f : Connection → Connection, c'.connections.held = c.connections.held.map f ∧
    ∀ k, (f k).link.target = k.link.target ∧ (k.link.Whole → (f k).link.Whole)

theorem Tended.attentive (ht : c.Tended c') (h : c.Attentive) : c'.Attentive :=
  ⟨ht.streams.trans h.streams, ht.feeds.trans h.feeds, ht.room h.room⟩

theorem Sound.of_tended (h : c.Sound) (ht : c.Tended c') : c'.Sound := by
  obtain ⟨f, hheld, hf⟩ := ht.held
  refine ⟨⟨by rw [ht.lobby]; exact h.begun, by rw [ht.lobby]; exact h.quiet, ht.attentive h.attentive, ?_, ?_, ?_⟩,
    ?_⟩
  · rw [ht.inbound, h.inbound, hheld, ht.past, Option.map_map]
    rfl
  · intro k' hk'
    rw [hheld] at hk'
    obtain ⟨k, hk, rfl⟩ := Option.map_eq_some_iff.mp hk'
    obtain ⟨s, hs, htarget⟩ := h.target k hk
    exact ⟨s, ht.lobby ▸ hs, (hf k).1.trans htarget⟩
  · rw [ht.pulse, ht.lobby, hheld, Option.isSome_map]
    exact h.pulse
  · intro k' hk'
    rw [hheld] at hk'
    obtain ⟨k, hk, rfl⟩ := Option.map_eq_some_iff.mp hk'
    exact (hf k).2 (h.whole k hk)

theorem tended_of_same (hlobby : c'.lobby = c.lobby) (hconnections : c'.connections = c.connections)
    (hinbound : c'.inbound = c.inbound) (hpulse : c'.pulse = c.pulse)
    (hstreams : c'.topics.closed = c.topics.closed) (hfeeds : c'.feeds = c.feeds)
    (hroom : c.ticks.length ≤ tickLimit → c'.ticks.length ≤ tickLimit) : c.Tended c' where
  lobby := hlobby
  inbound := hinbound
  pulse := congrArg Option.isSome hpulse
  streams := hstreams
  feeds := hfeeds
  room := hroom
  past := by rw [hconnections]
  held := ⟨id, by rw [hconnections, Option.map_id, id], fun k => ⟨rfl, id⟩⟩

theorem tended_settle (c : Client) (now : Nat) : c.Tended (c.settle now) where
  lobby := rfl
  inbound := rfl
  pulse := rfl
  streams := rfl
  feeds := rfl
  room := id
  past := List.length_map _
  held := ⟨fun k => k.mapLink fun l => l.settle now, rfl, fun k =>
    ⟨congrArg Voice.target (Link.voice_settle k.link now),
      Link.settle_keeps (P := Link.Whole) (fun _ now h => Link.whole_turn h now) now⟩⟩

theorem target_send (l : Link) (text : String) : (l.send text).target = l.target := by
  unfold Link.send
  split <;> rfl

theorem kept_turn (l l' : Link) (now : Nat) (h : l'.target = l.target ∧ (l.Whole → l'.Whole)) :
    (l'.turn now).target = l.target ∧ (l.Whole → (l'.turn now).Whole) :=
  ⟨(congrArg Voice.target (Link.voice_turn l' now)).trans h.1, fun hl => Link.whole_turn (h.2 hl) now⟩

theorem kept_send (l l' : Link) (text : String) (h : l'.target = l.target ∧ (l.Whole → l'.Whole)) :
    (l'.send text).target = l.target ∧ (l.Whole → (l'.send text).Whole) :=
  ⟨(target_send l' text).trans h.1, fun hl => Link.whole_send (h.2 hl) text⟩

/-- Heartbeats are queued on the held channel, which stays what it is. -/
theorem tended_pass (c : Client) (now until_ : Nat) : c.Tended (c.pass now until_) := by
  have hs := tended_settle c now
  rcases pass_cases c now until_ with hrest | ⟨p, k, hp, -, hpass⟩
  · rw [hrest]
    exact hs
  · rw [hpass]
    let beaten (l : Link) : Link := (p.run c.lastSnapshot l now until_).2
    have hbeaten : ∀ l : Link, (beaten l).target = l.target ∧ (l.Whole → (beaten l).Whole) := by
      intro l
      exact (Pulse.run_keeps (P := fun l' => l'.target = l.target ∧ (l.Whole → l'.Whole)) p.session p.player
        (kept_turn l) (fun l' _ => kept_send l l' _) p c.lastSnapshot l now until_ ⟨rfl, rfl⟩ ⟨rfl, id⟩).2
    obtain ⟨f, hheld, hf⟩ := hs.held
    refine ⟨hs.lobby, hs.inbound, ?_, hs.streams, hs.feeds, hs.room, hs.past, fun k => (f k).mapLink beaten, ?_, ?_⟩
    · rw [← hs.pulse, hp]
      rfl
    · rw [Connections.mapHeld, hheld, Option.map_map]
      rfl
    · exact fun k => ⟨(hbeaten _).1.trans (hf k).1, fun hk => (hbeaten _).2 ((hf k).2 hk)⟩

theorem tended_sendSnapshot (c : Client) (now : Nat) (objects : List GameObject) :
    c.Tended (c.sendSnapshot now objects).1 := by
  unfold sendSnapshot
  split
  · exact tended_of_same rfl rfl rfl rfl rfl rfl id
  · split
    · exact ⟨rfl, rfl, rfl, rfl, rfl, id, rfl, _, rfl, fun k => ⟨target_send k.link _, fun h => Link.whole_send h _⟩⟩
    · exact tended_of_same rfl rfl rfl rfl rfl rfl id

theorem tended_onConnection (c : Client) (i : Nat) {f : Connection → Connection}
    (hf : ∀ k, (f k).link.target = k.link.target ∧ (k.link.Whole → (f k).link.Whole)) :
    c.Tended (c.onConnection i f) := by
  unfold onConnection Connections.modify
  split
  · exact ⟨rfl, rfl, rfl, rfl, rfl, id, List.length_modify .., id, by simp, fun k => ⟨rfl, id⟩⟩
  · split
    · exact ⟨rfl, rfl, rfl, rfl, rfl, id, rfl, f, rfl, hf⟩
    · exact tended_of_same rfl rfl rfl rfl rfl rfl id

theorem coherent_takeBatch (h : c.Coherent) (batch : List Event) : (c.takeBatch batch).Coherent := by
  obtain ⟨hlobby, hconnections, hinbound, hattentive, -, hpulse⟩ := takeBatch_parts c batch h.attentive
  refine ⟨?_, ?_, hattentive, ?_, ?_, ?_⟩
  · rw [hlobby]
    exact Lobby.begun_after_reconcileAll h.begun _
  · rw [hlobby, Lobby.status_after_reconcileAll]
    exact h.quiet
  · rw [hinbound, hconnections]
    exact h.inbound
  · intro k hk
    rw [hconnections] at hk
    obtain ⟨s, hs, htarget⟩ := h.target k hk
    have hseat := Lobby.seat_after_reconcileAll c.lobby (sessionEvents batch)
    rw [hs] at hseat
    obtain ⟨t, ht, hts⟩ := Option.map_eq_some_iff.mp hseat
    obtain ⟨s', rfl, hid, hrole, hme⟩ := Session.seat_eq_of_network hts
    refine ⟨s', hlobby ▸ ht, ?_⟩
    rw [htarget, NetworkSession.target, NetworkSession.target, hid, hrole, hme]
  · intro hsome
    rw [hpulse] at hsome
    rw [hlobby, hconnections]
    split at hsome
    · cases hsome
    · rename_i hon
      obtain ⟨hrunning, hheld⟩ := h.pulse hsome
      refine ⟨?_, hheld⟩
      by_cases hnone : sessionEvents batch = []
      · rw [hnone]
        exact hrunning
      · rcases Lobby.lifecycle_after_reconcileAll c.lobby (sessionEvents batch) with hsame | hclosed
        · exact hsame.trans hrunning
        · exact absurd ⟨hnone, hclosed⟩ hon

theorem sound_takeLoss (h : c.Coherent) (reason : Option String) : (c.takeLoss reason).Sound :=
  sound_of_offline h.begun rfl (h.attentive.takeLoss reason) rfl rfl rfl

theorem coherent_foldl_take (bs : List (List Event)) (count : Nat) (h : c.Coherent) :
    let c' := ((bs.map Notice.batch).foldl (fun (c, count) n => (c.take n, count + c.handedOut n)) (c, count)).1
    c'.Coherent ∧ c'.connections = c.connections := by
  induction bs generalizing c count with
  | nil => exact ⟨h, rfl⟩
  | cons b bs ih =>
    have hsame : (c.takeBatch b).connections = c.connections := (takeBatch_parts c b h.attentive).2.1
    obtain ⟨hrest, hconnections⟩ := ih (count + c.handedOut (.batch b)) (coherent_takeBatch h b)
    exact ⟨hrest, hconnections.trans hsame⟩

theorem coherent_clearNotices (h : c.Coherent) :
    c.clearNotices.Coherent ∧
      c.clearNotices.connections.held = c.connections.held.map (·.mapLink Link.clearNotices) := by
  unfold clearNotices
  cases hk : c.connections.held with
  | none =>
    have hnone : c.inbound = none := by rw [h.inbound, hk]; rfl
    rw [hnone]
    exact ⟨h, hk⟩
  | some k =>
    have hsome : c.inbound = some c.connections.past.length := by rw [h.inbound, hk]; rfl
    have hmodify : c.connections.modify c.connections.past.length (·.mapLink Link.clearNotices) =
        { c.connections with held := some (k.mapLink Link.clearNotices) } := by
      rw [Connections.modify, if_neg (Nat.lt_irrefl _), if_pos rfl, hk]
      rfl
    rw [hsome]
    simp only [hmodify]
    refine ⟨⟨h.begun, h.quiet, h.attentive.of_same rfl rfl rfl, rfl, ?_, ?_⟩, rfl⟩
    · intro k' hk'
      cases hk'
      exact h.target k hk
    · intro hp
      exact ⟨(h.pulse hp).1, rfl⟩

/-- Taking note of everything leaves a channel that runs, or none. In neither case has the stream come to its end
without word of the loss. -/
theorem sound_takeNotices (h : c.Sound) : c.takeNotices.1.Sound ∧ c.takeNotices.1.isToldAll = false := by
  obtain ⟨hcleared, hheld⟩ := coherent_clearNotices h.toCoherent
  unfold takeNotices notices
  rw [h.listened?_eq]
  cases hk : c.connections.held with
  | none =>
    rw [hk] at hheld
    change c.clearNotices.Sound ∧ c.clearNotices.isToldAll = false
    refine ⟨⟨hcleared, fun k hk' => ?_⟩, ?_⟩
    · rw [hheld] at hk'
      cases hk'
    · rw [isToldAll, hcleared.listened?_eq, hheld]
      rfl
  | some k =>
    rw [hk] at hheld
    simp only
    rcases Notice.upToLoss_cases k.link.notices with ⟨bs, hall, hread⟩ | ⟨bs, reason, hread⟩
    · have hquiet : ∀ reason, Notice.closed reason ∉ k.link.notices := by
        intro reason hmem
        rw [hall] at hmem
        obtain ⟨b, -, hb⟩ := List.mem_map.mp hmem
        cases hb
      have hwhole : (k.mapLink Link.clearNotices).link.Whole := (h.whole k hk).clearNotices hquiet
      obtain ⟨htaken, hsame⟩ := coherent_foldl_take bs 0 hcleared
      rw [hread]
      refine ⟨⟨htaken, fun k' hk' => ?_⟩, ?_⟩
      · rw [hsame, hheld] at hk'
        cases hk'
        exact hwhole
      · rw [isToldAll, htaken.listened?_eq, hsame, hheld]
        have hrunning : (k.mapLink Link.clearNotices).link.isFinished = false :=
          (h.whole k hk).isFinished_eq_false hquiet
        simp [hrunning]
    · obtain ⟨htaken, -⟩ := coherent_foldl_take bs 0 hcleared
      rw [hread, List.foldl_append]
      have hlost := sound_takeLoss htaken reason
      refine ⟨hlost, ?_⟩
      rw [List.foldl_cons, List.foldl_nil]
      rfl

theorem sound_pump (h : c.Sound) : c.pump.1.Sound := by
  obtain ⟨htaken, htold⟩ := sound_takeNotices h
  unfold pump
  simp only [htold, Bool.false_eq_true, if_false]
  exact htaken

theorem sound_start {endpoint : Endpoint} {s : Start} (h : c.Sound) (hend : c.StartEnd endpoint s c') : c'.Sound := by
  -- a start is only made without a session, and then there was nothing to begin with
  cases hend with
  | busy hl same => rw [same]; exact h
  | failed e hl lobby waited =>
    obtain ⟨-, hinbound, hpulse⟩ := h.idle hl
    have hbegun : c'.lobby.Begun := by rw [lobby]; exact h.begun
    exact sound_of_offline hbegun (by rw [lobby]; rfl) (waited.attentive h.attentive) waited.held
      (waited.inbound.trans hinbound) (waited.pulse.trans hpulse)
  | solo hl request lobby waited =>
    obtain ⟨-, hinbound, hpulse⟩ := h.idle hl
    have hbegun : c'.lobby.Begun := by rw [lobby]; exact ⟨nofun, nofun⟩
    exact sound_of_offline hbegun (by rw [lobby]; rfl) (waited.attentive h.attentive) waited.held
      (waited.inbound.trans hinbound) (waited.pulse.trans hpulse)
  | opened r g k p hl request answer lobby held target whole inbound pulse identity voices attentive =>
    refine ⟨⟨?_, ?_, ?_, ?_, ?_, ?_⟩, ?_⟩
    · rw [lobby]; exact ⟨nofun, nofun⟩
    · rw [lobby]; rfl
    · exact attentive h.attentive
    · rw [inbound, held]; rfl
    · intro k' hk'
      rw [held] at hk'
      cases hk'
      exact ⟨_, by rw [lobby], target⟩
    · intro _
      rw [lobby, held]
      exact ⟨rfl, rfl⟩
    · intro k' hk'
      rw [held] at hk'
      cases hk'
      exact whole
  | aborted r g e hl request answer lobby held inbound pulse voices attentive =>
    obtain ⟨-, hinbound, hpulse⟩ := h.idle hl
    have hbegun : c'.lobby.Begun := by rw [lobby]; exact ⟨fun _ => rfl, fun _ => rfl⟩
    exact sound_of_offline hbegun (by rw [lobby]; rfl) (attentive h.attentive) held
      (inbound.trans hinbound) (pulse.trans hpulse)

theorem sound_reset (c : Client) : c.reset.Sound :=
  sound_of_offline ⟨fun _ => rfl, fun _ => rfl⟩ rfl ⟨rfl, rfl, Nat.zero_le _⟩ rfl rfl rfl

end Client

namespace Timeline

inductive StepOutcome (t : Timeline) (x : Happening) (c' : Client) : Prop where
  | start (endpoint : Endpoint) (server : Server) (s : Start) (happening : x = .start endpoint server s)
    (ended : t.client.StartEnd endpoint s c')
  | pump (origin : x.origin? = none) (client : c' = t.client.pump.1)
  | frame (objects : List GameObject) (origin : x.origin? = none)
    (client : c' = (t.client.pump.1.sendSnapshot t.now objects).1)
  | sendSnapshot (objects : List GameObject) (origin : x.origin? = none)
    (client : c' = (t.client.sendSnapshot t.now objects).1)
  | reset (happening : x = .reset) (client : c' = t.client.reset)
  | pass (until_ : Nat) (origin : x.origin? = none) (client : c' = t.client.pass t.now until_)
  | quiet (origin : x.origin? = none) (tended : t.client.Tended c') (pulse : c'.pulse = t.client.pulse)
    (voices : c'.connections.voices = t.client.connections.voices)

theorem stepOutcome_onConnection {t : Timeline} {x : Happening} (i : Nat) {f : Connection → Connection}
    (origin : x.origin? = none) (hvoice : ∀ k, (f k).link.voice = k.link.voice)
    (hwhole : ∀ k, k.link.Whole → (f k).link.Whole) : t.StepOutcome x (t.client.onConnection i f) :=
  .quiet origin (Client.tended_onConnection _ i fun k => ⟨congrArg Voice.target (hvoice k), hwhole k⟩) rfl
    (Connections.voices_modify _ i hvoice)

theorem stepOutcome {t : Timeline} (h : t.client.Sound) (x : Happening) : t.StepOutcome x (t.step x).client := by
  have hsame : ∀ c', x.origin? = none → c'.lobby = t.client.lobby → c'.connections = t.client.connections →
      c'.inbound = t.client.inbound → c'.pulse = t.client.pulse → c'.topics.closed = t.client.topics.closed →
      c'.feeds = t.client.feeds → (t.client.ticks.length ≤ Client.tickLimit → c'.ticks.length ≤ Client.tickLimit) →
      t.StepOutcome x c' := by
    intro c' origin hlobby hconnections hinbound hpulse hstreams hfeeds hroom
    exact .quiet origin (Client.tended_of_same hlobby hconnections hinbound hpulse hstreams hfeeds hroom) hpulse
      (by rw [hconnections])
  cases x with
  | start endpoint server s =>
    exact .start endpoint server s rfl (Client.startEnd t.now endpoint server s fun hl => (h.idle hl).1)
  | pump => exact .pump rfl rfl
  | frame sim scene seconds => exact .frame _ rfl rfl
  | sendSnapshot objects => exact .sendSnapshot objects rfl rfl
  | reset => exact .reset rfl rfl
  | pass ms => exact .pass _ rfl rfl
  | type e =>
    change t.StepOutcome _ (t.client.type e)
    unfold Client.type
    split <;> exact hsame _ rfl rfl rfl rfl rfl rfl rfl id
  | subscribe | read | unsubscribe => exact hsame _ rfl rfl rfl rfl rfl rfl rfl id
  | nextTick => exact hsame _ rfl rfl rfl rfl rfl rfl rfl fun _ => Nat.zero_le _
  | push i text =>
    exact stepOutcome_onConnection i rfl (fun k => k.voice_push t.now text) fun _ hk =>
      Connection.whole_push hk t.now text
  | hangUp i =>
    exact stepOutcome_onConnection i rfl (fun k => k.voice_hangUp t.now) fun _ hk => Connection.whole_hangUp hk t.now
  | dropServer i =>
    exact stepOutcome_onConnection i rfl (fun k => k.voice_dropServer t.now) fun _ hk =>
      Connection.whole_dropServer hk t.now
  | fail i e =>
    exact stepOutcome_onConnection i rfl (fun _ => rfl) fun _ hk => Connection.whole_deliver hk t.now (by simp)
  | turn i =>
    exact stepOutcome_onConnection i rfl (fun k => Link.voice_turn k.link t.now) fun _ hk => Link.whole_turn hk t.now
  | settle => exact .quiet rfl (Client.tended_settle _ t.now) rfl (Connections.voices_settle _ t.now)

theorem sound_step {t : Timeline} (h : t.client.Sound) (x : Happening) : (t.step x).client.Sound := by
  cases stepOutcome h x with
  | start endpoint server s happening ended => exact Client.sound_start h ended
  | pump origin client =>
    rw [client]
    exact Client.sound_pump h
  | frame objects origin client =>
    rw [client]
    exact (Client.sound_pump h).of_tended (Client.tended_sendSnapshot _ _ _)
  | sendSnapshot objects origin client =>
    rw [client]
    exact h.of_tended (Client.tended_sendSnapshot _ _ _)
  | reset happening client =>
    rw [client]
    exact Client.sound_reset _
  | pass until_ origin client =>
    rw [client]
    exact h.of_tended (Client.tended_pass _ _ _)
  | quiet origin tended pulse voices => exact h.of_tended tended

theorem sound_run {t : Timeline} (h : t.client.Sound) (xs : List Happening) : (t.run xs).client.Sound := by
  induction xs generalizing t with
  | nil => exact h
  | cons x xs ih =>
    have hrun : t.run (x :: xs) = (t.step x).run xs := rfl
    rw [hrun]
    exact ih (sound_step h x)

/-- Whatever has happened, channel, stream, heartbeats and session fit together. The stream of notices never
ends without word of the loss. -/
theorem resources_consistent (settings : Settings) (base : Url) (xs : List Happening) :
    let c := (run ⟨.fresh settings base, 0⟩ xs).client
    (c.inbound.isSome ↔ c.connections.held.isSome) ∧
    c.listened? = c.connections.held ∧
    (∀ k, c.connections.held = some k →
      ∃ s, c.lobby.session = some (.network s) ∧ k.link.target = ⟨s.id, s.me.id, s.role⟩) ∧
    (c.pulse.isSome →
      (∃ s, c.lobby.session = some (.network s)) ∧ c.lobby.lifecycle = .running ∧ c.connections.held.isSome) ∧
    (c.lobby.lifecycle = .uninitialized ∨ c.lobby.session = some .solo →
      c.connections.held = none ∧ c.inbound = none ∧ c.pulse = none) ∧
    c.lobby.status.loading = false ∧
    c.takeNotices.1.isToldAll = false := by
  intro c
  have h : c.Sound := sound_run (Client.sound_fresh settings base) xs
  refine ⟨?_, h.listened?_eq, h.target, ?_, ?_, h.quiet, (Client.sound_takeNotices h).2⟩
  · rw [h.inbound, Option.isSome_map]
  · intro hp
    obtain ⟨hrunning, hheld⟩ := h.pulse hp
    obtain ⟨k, hk⟩ := Option.isSome_iff_exists.mp hheld
    obtain ⟨s, hs, -⟩ := h.target k hk
    exact ⟨⟨s, hs⟩, hrunning, hheld⟩
  · rintro (hidle | hsolo)
    · exact h.idle hidle
    · apply h.offline
      intro s hs
      rw [hsolo] at hs
      cases hs

end Timeline

end PaddleLink
