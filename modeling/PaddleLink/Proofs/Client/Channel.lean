import PaddleLink.Proofs.Client.Hush
import PaddleLink.Proofs.Transport.Exchange

namespace PaddleLink

/-- A property that every new channel has, and that nothing that happens to a held channel breaks. -/
structure Link.Lasting (P : Link → Prop) : Prop where
  fresh : ∀ url t listens now, P (Connection.fresh url t listens now).link
  turn : ∀ l now, P l → P (l.turn now)
  send : ∀ l text, P l → P (l.send text)
  socket : ∀ l socket, P l → P { l with socket := socket }
  clearNotices : ∀ l, P l → P l.clearNotices

variable {P : Link → Prop}

namespace Connection

variable {k : Connection}

theorem lasts_push (hP : Link.Lasting P) (h : P k.link) (now : Nat) (text : String) : P (k.push now text).link := by
  unfold push
  split
  · exact hP.socket _ _ h
  · exact h

theorem lasts_hangUp (hP : Link.Lasting P) (h : P k.link) (now : Nat) : P (k.hangUp now).link := by
  unfold hangUp
  split
  · exact hP.socket _ _ h
  · exact h

end Connection

def Connections.Holds (P : Link → Prop) (c : Connections) : Prop :=
  ∀ k, c.held = some k → P k.link

namespace Connections

variable {c c' : Connections}

theorem holds_of_unheld (h : c.held = none) : c.Holds P := by
  intro k hk
  rw [h] at hk
  cases hk

theorem Holds.map (h : c.Holds P) {f : Connection → Connection} (hf : ∀ k, P k.link → P (f k).link)
    (hheld : c'.held = c.held.map f) : c'.Holds P := by
  intro k' hk'
  rw [hheld] at hk'
  obtain ⟨k, hk, rfl⟩ := Option.map_eq_some_iff.mp hk'
  exact hf k (h k hk)

theorem Holds.modify (h : c.Holds P) (i : Nat) {f : Connection → Connection} (hf : ∀ k, P k.link → P (f k).link) :
    (c.modify i f).Holds P := by
  unfold Connections.modify
  split
  · exact h
  · split
    · exact h.map hf rfl
    · exact h

theorem Holds.connect (hP : Link.Lasting P) (h : c.Holds P) (now : Nat) (server : Server) (t : Target) :
    (c.connect now server t).connections.Holds P := by
  rw [connect_eq]
  by_cases hc : c.Has t
  · rw [connectBy_of_has hc]
    exact h
  · rw [connectBy_of_not_has hc]
    cases opening (c := c.close) rfl now server.listens t (establish c.policy server.welcome) with
    | opened url k address handshake result held isOpen target made past =>
      obtain ⟨listens, since, rfl⟩ := made
      intro k' hk'
      rw [held] at hk'
      cases hk'
      exact hP.fresh url t listens since
    | failed e cause result held => exact holds_of_unheld held

end Connections

namespace Client

variable {c : Client}

def Holds (P : Link → Prop) (c : Client) : Prop :=
  c.connections.Holds P

variable (hP : Link.Lasting P) (h : c.Holds P)
include hP h

theorem holds_settle (now : Nat) : (c.settle now).Holds P :=
  h.map (f := fun k => k.mapLink fun l => l.settle now) (fun _ hk => Link.settle_keeps hP.turn now hk) rfl

theorem holds_pass (now until_ : Nat) : (c.pass now until_).Holds P := by
  have hsettled := holds_settle hP h now
  rcases pass_cases c now until_ with hrest | ⟨p, k, -, -, hpass⟩
  · rw [hrest]
    exact hsettled
  · rw [hpass]
    refine hsettled.map (fun k hk => ?_) rfl
    exact (Pulse.run_keeps p.session p.player hP.turn (fun l _ hl => hP.send l _ hl) p c.lastSnapshot k.link now until_
      ⟨rfl, rfl⟩ hk).2

theorem holds_passDuring (now : Nat) (acts : List Act) : (c.passDuring now acts).Holds P := by
  unfold passDuring
  split
  · exact h
  · exact holds_pass hP h _ _

theorem holds_sendSnapshot (now : Nat) (objects : List GameObject) : (c.sendSnapshot now objects).1.Holds P := by
  rcases sendSnapshot_cases c now objects with hsame | ⟨text, -, hsent⟩
  · rw [hsame]
    exact h
  · rw [hsent]
    exact h.map (fun k hk => hP.send k.link text hk) rfl

theorem holds_pump (hattentive : c.Attentive) : c.pump.1.Holds P := by
  refine pump_keeps (P := Holds P) hattentive ?_ ?_ ?_ ?_
  · unfold clearNotices
    split
    · exact h.modify _ fun k hk => hP.clearNotices k.link hk
    · exact h
  · intro d batch hd hholds
    rw [Holds, (takeBatch_parts d batch hd).2.1]
    exact hholds
  · exact fun d reason _ => Connections.holds_of_unheld rfl
  · exact fun d hholds => hholds

theorem holds_openChannel (now : Nat) (server : Server) (s : NetworkSession) :
    (c.openChannel now server s).client.Holds P := by
  have hconnected := Connections.Holds.connect hP h now server s.target
  unfold openChannel
  simp only
  split <;> exact hconnected

theorem holds_start (now : Nat) (endpoint : Endpoint) (server : Server) (s : Start) :
    (c.start now endpoint server s).client.Holds P := by
  let acts := (c.lobby.start c.settings.setupDelay endpoint s).acts
  have hwaited : ((c.passDuring now acts).perform acts).Holds P := holds_passDuring hP h now acts
  unfold start
  simp only
  split
  · exact hwaited
  · exact hwaited
  · exact holds_openChannel hP hwaited _ server _

end Client

theorem Timeline.holds_step (hP : Link.Lasting P) {t : Timeline} (hsound : t.client.Sound) (h : t.client.Holds P)
    (x : Happening) : (t.step x).client.Holds P := by
  cases x with
  | start endpoint server s => exact Client.holds_start hP h t.now endpoint server s
  | type e =>
    change (t.client.type e).Holds P
    unfold Client.type
    split <;> exact h
  | pump => exact Client.holds_pump hP h hsound.attentive
  | frame sim scene seconds =>
    exact Client.holds_sendSnapshot hP (Client.holds_pump hP h hsound.attentive) t.now _
  | sendSnapshot objects => exact Client.holds_sendSnapshot hP h t.now objects
  | nextTick | subscribe | read | unsubscribe => exact h
  | reset => exact Connections.holds_of_unheld rfl
  | push i text => exact h.modify i fun _ hk => Connection.lasts_push hP hk t.now text
  | hangUp i => exact h.modify i fun _ hk => Connection.lasts_hangUp hP hk t.now
  | dropServer i => exact h.modify i fun _ hk => hP.socket _ _ (Connection.lasts_hangUp hP hk t.now)
  | fail i e => exact h.modify i fun k hk => hP.socket k.link _ hk
  | turn i => exact h.modify i fun k hk => hP.turn k.link t.now hk
  | settle => exact Client.holds_settle hP h t.now
  | pass ms => exact Client.holds_pass hP h t.now _

end PaddleLink
