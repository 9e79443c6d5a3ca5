import PaddleLink.Proofs.Client.Resources

namespace PaddleLink

theorem Connections.connect_fixed (k : Connections) (now : Nat) (server : Server) (t : Target) :
    (k.connect now server t).connections.base = k.base ∧ (k.connect now server t).connections.policy = k.policy := by
  have hwaited : ∀ k' : Connections, ∀ elapsed, (if elapsed = 0 then k' else k'.settle now).base = k'.base ∧
      (if elapsed = 0 then k' else k'.settle now).policy = k'.policy := by
    intro k' elapsed
    split <;> exact ⟨rfl, rfl⟩
  unfold connect
  split
  · exact ⟨rfl, rfl⟩
  · simp only
    split
    · exact ⟨rfl, rfl⟩
    · unfold afterHandshake
      simp only
      split
      · exact hwaited _ _
      · split <;> exact hwaited _ _

namespace Client

variable {c c' c'' : Client}

structure Configured (c c' : Client) : Prop where
  settings : c'.settings = c.settings
  base : c'.connections.base = c.connections.base
  policy : c'.connections.policy = c.connections.policy

/-- Nothing new is there to be read, and nothing was read. -/
structure Kept (c c' : Client) : Prop extends Configured c c' where
  score : c'.score = c.score
  ticks : c'.ticks = c.ticks

theorem Configured.trans (h : c.Configured c') (h' : c'.Configured c'') : c.Configured c'' where
  settings := h'.settings.trans h.settings
  base := h'.base.trans h.base
  policy := h'.policy.trans h.policy

theorem Kept.trans (h : c.Kept c') (h' : c'.Kept c'') : c.Kept c'' where
  toConfigured := h.toConfigured.trans h'.toConfigured
  score := h'.score.trans h.score
  ticks := h'.ticks.trans h.ticks

theorem kept_settle (c : Client) (now : Nat) : c.Kept (c.settle now) :=
  ⟨⟨rfl, rfl, rfl⟩, rfl, rfl⟩

theorem kept_pass (c : Client) (now until_ : Nat) : c.Kept (c.pass now until_) := by
  rcases pass_cases c now until_ with hrest | ⟨p, k, -, -, hpass⟩
  · rw [hrest]
    exact kept_settle c now
  · rw [hpass]
    exact ⟨⟨rfl, rfl, rfl⟩, rfl, rfl⟩

theorem kept_passDuring (c : Client) (now : Nat) (acts : List Act) : c.Kept (c.passDuring now acts) := by
  unfold passDuring
  split
  · exact ⟨⟨rfl, rfl, rfl⟩, rfl, rfl⟩
  · exact kept_pass c _ _

theorem kept_sendSnapshot (c : Client) (now : Nat) (objects : List GameObject) :
    c.Kept (c.sendSnapshot now objects).1 := by
  unfold sendSnapshot
  split
  · exact ⟨⟨rfl, rfl, rfl⟩, rfl, rfl⟩
  · split <;> exact ⟨⟨rfl, rfl, rfl⟩, rfl, rfl⟩

theorem kept_onConnection (c : Client) (i : Nat) (f : Connection → Connection) : c.Kept (c.onConnection i f) := by
  have hsame : (c.connections.modify i f).base = c.connections.base ∧
      (c.connections.modify i f).policy = c.connections.policy := by
    unfold Connections.modify
    split
    · exact ⟨rfl, rfl⟩
    · split <;> exact ⟨rfl, rfl⟩
  exact ⟨⟨rfl, hsame.1, hsame.2⟩, rfl, rfl⟩

theorem kept_onTopics (c : Client) (f : Multiplexer → Multiplexer) : c.Kept (c.onTopics f) :=
  ⟨⟨rfl, rfl, rfl⟩, rfl, rfl⟩

theorem kept_type (c : Client) (e : KeyEvent) : c.Kept (c.type e) := by
  unfold type
  split <;> exact ⟨⟨rfl, rfl, rfl⟩, rfl, rfl⟩

theorem kept_openChannel (c : Client) (now : Nat) (server : Server) (s : NetworkSession) :
    c.Kept (c.openChannel now server s).client := by
  obtain ⟨hbase, hpolicy⟩ := Connections.connect_fixed c.connections now server ⟨s.id, s.me.id, s.role⟩
  unfold openChannel
  simp only
  split <;> exact ⟨⟨rfl, hbase, hpolicy⟩, rfl, rfl⟩

theorem kept_start (c : Client) (now : Nat) (endpoint : Endpoint) (server : Server) (s : Start) :
    c.Kept (c.start now endpoint server s).client := by
  have hwaited : ∀ acts, c.Kept ((c.passDuring now acts).perform acts) := by
    intro acts
    have h := kept_passDuring c now acts
    exact ⟨⟨h.settings, h.base, h.policy⟩, h.score, h.ticks⟩
  unfold start
  simp only
  split
  · exact hwaited _
  · have h := hwaited (c.lobby.start c.settings.setupDelay endpoint s).acts
    exact ⟨⟨h.settings, h.base, h.policy⟩, h.score, h.ticks⟩
  · exact (hwaited _).trans (kept_openChannel _ _ _ _)

theorem configured_pump (hattentive : c.Attentive) : c.Configured c.pump.1 := by
  refine pump_keeps (P := c.Configured) hattentive ?_ ?_ ?_ ?_
  · unfold clearNotices
    split
    · exact (kept_onConnection c _ _).toConfigured
    · exact ⟨rfl, rfl, rfl⟩
  · intro d batch hd h
    rw [takeBatch_eq d batch hd, keep_rest]
    exact ⟨h.settings, h.base, h.policy⟩
  · exact fun d reason h => ⟨h.settings, h.base, h.policy⟩
  · exact fun d h => ⟨h.settings, h.base, h.policy⟩

end Client

namespace Timeline

variable {t : Timeline}

/-- What a pump, the reading of snapshots and a reset keep, and everything that keeps the news as well, is kept by
every step. -/
theorem step_keeps {P : Client → Prop} (hkept : ∀ c c', Client.Kept c c' → P c → P c')
    (hpump : ∀ c, c.Sound → P c → P c.pump.1) (hread : ∀ c, P c → P (Client.nextTick c).1)
    (hreset : ∀ c, P c → P (Client.reset c)) (hsound : t.client.Sound) (h : P t.client) (x : Happening) :
    P (t.step x).client := by
  cases x with
  | start endpoint server s => exact hkept _ _ (Client.kept_start ..) h
  | type e => exact hkept _ _ (Client.kept_type _ e) h
  | pump => exact hpump _ hsound h
  | frame sim scene seconds => exact hkept _ _ (Client.kept_sendSnapshot ..) (hpump _ hsound h)
  | sendSnapshot objects => exact hkept _ _ (Client.kept_sendSnapshot ..) h
  | nextTick => exact hread _ h
  | reset => exact hreset _ h
  | subscribe topic => exact hkept _ _ (Client.kept_onTopics _ fun m => m.subscribe topic) h
  | read i => exact hkept _ _ (Client.kept_onTopics _ fun m => m.modify i Subscription.clear) h
  | unsubscribe i => exact hkept _ _ (Client.kept_onTopics _ fun m => m.modify i Subscription.drop) h
  | push | hangUp | dropServer | fail | turn => exact hkept _ _ (Client.kept_onConnection ..) h
  | settle => exact hkept _ _ (Client.kept_settle ..) h
  | pass ms => exact hkept _ _ (Client.kept_pass ..) h

theorem run_keeps {P : Client → Prop} (hkept : ∀ c c', Client.Kept c c' → P c → P c')
    (hpump : ∀ c, c.Sound → P c → P c.pump.1) (hread : ∀ c, P c → P (Client.nextTick c).1)
    (hreset : ∀ c, P c → P (Client.reset c)) (hsound : t.client.Sound) (h : P t.client) (xs : List Happening) :
    P (t.run xs).client := by
  induction xs generalizing t with
  | nil => exact h
  | cons x xs ih => exact ih (sound_step hsound x) (step_keeps hkept hpump hread hreset hsound h x)

/-- A client stays what it was made with. -/
theorem configured_run (hsound : t.client.Sound) (xs : List Happening) : t.client.Configured (t.run xs).client := by
  refine run_keeps (P := t.client.Configured) ?_ ?_ ?_ ?_ hsound ⟨rfl, rfl, rfl⟩ xs
  · exact fun c c' hkept h => h.trans hkept.toConfigured
  · exact fun c hc h => h.trans (Client.configured_pump hc.attentive)
  · exact fun c h => ⟨h.settings, h.base, h.policy⟩
  · exact fun c h => ⟨h.settings, h.base, h.policy⟩

end Timeline

end PaddleLink
