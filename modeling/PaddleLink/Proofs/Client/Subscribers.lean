import PaddleLink.Proofs.Client.News

namespace PaddleLink

namespace Client

/-- Two states of a client that differ at most in its subscribers. -/
structure Agrees (c c' : Client) : Prop where
  streams : c'.topics.closed = c.topics.closed
  rest : c' = { c with topics := c'.topics }

variable {c c' : Client}

theorem Agrees.attentive (h : c.Agrees c') (hattentive : c.Attentive) : c'.Attentive := by
  have hrest := h.rest
  apply hattentive.of_same h.streams <;> rw [hrest]

theorem Agrees.symm (h : c.Agrees c') : c'.Agrees c := by
  refine ⟨h.streams.symm, ?_⟩
  rw [h.rest]

/-- What does not look at the subscribers does the same to both. -/
theorem agrees_of_blind {f : Client → Client} (hstreams : ∀ d, (f d).topics.closed = d.topics.closed)
    (hblind : ∀ d m, f { d with topics := m } = { f d with topics := m }) (h : c.Agrees c') :
    (f c).Agrees (f c') := by
  refine ⟨?_, ?_⟩
  · rw [hstreams, hstreams, h.streams]
  · rw [h.rest, hblind]

theorem Agrees.pass (h : c.Agrees c') (now until_ : Nat) : (c.pass now until_).Agrees (c'.pass now until_) := by
  refine agrees_of_blind (f := fun d => d.pass now until_) (fun d => ?_) (fun d m => ?_) h
  · exact (tended_pass d now until_).streams
  · unfold Client.pass
    simp only [Client.settle]
    split <;> rfl

theorem Agrees.passDuring (h : c.Agrees c') (now : Nat) (acts : List Act) :
    (c.passDuring now acts).Agrees (c'.passDuring now acts) := by
  unfold Client.passDuring
  split
  · exact h
  · exact h.pass now _

theorem Agrees.perform (h : c.Agrees c') (acts : List Act) : (c.perform acts).Agrees (c'.perform acts) :=
  agrees_of_blind (f := fun d => d.perform acts) (fun _ => rfl) (fun _ _ => rfl) h

theorem Agrees.refresh (h : c.Agrees c') : c.refresh.Agrees c'.refresh :=
  agrees_of_blind (fun _ => rfl) (fun _ _ => rfl) h

theorem Agrees.type (h : c.Agrees c') (e : KeyEvent) : (c.type e).Agrees (c'.type e) := by
  have hkeyboard : c'.keyboard = c.keyboard := by rw [h.rest]
  unfold Client.type
  rw [hkeyboard]
  split
  · apply Agrees.refresh
    exact agrees_of_blind (f := fun d => { d with keyboard := c.keyboard.after e }) (fun _ => rfl) (fun _ _ => rfl) h
  · exact h

theorem Agrees.sendSnapshot (h : c.Agrees c') (now : Nat) (objects : List GameObject) :
    (c.sendSnapshot now objects).1.Agrees (c'.sendSnapshot now objects).1 := by
  refine agrees_of_blind (f := fun d => (d.sendSnapshot now objects).1) (fun d => ?_) (fun d m => ?_) h
  · exact (tended_sendSnapshot d now objects).streams
  · unfold Client.sendSnapshot
    have hsame : snapshotNow? { d with topics := m } now objects = d.snapshotNow? now objects := rfl
    rw [hsame]
    split
    · rfl
    · split <;> rfl

theorem Agrees.onConnection (h : c.Agrees c') (i : Nat) (f : Connection → Connection) :
    (c.onConnection i f).Agrees (c'.onConnection i f) :=
  agrees_of_blind (f := fun d => d.onConnection i f) (fun _ => rfl) (fun _ _ => rfl) h

theorem Agrees.onTopics (h : c.Agrees c') {f : Multiplexer → Multiplexer} (hf : ∀ m, (f m).closed = m.closed) :
    c.Agrees (c'.onTopics f) := by
  refine ⟨(hf _).trans h.streams, ?_⟩
  rw [Client.onTopics, h.rest]

theorem Agrees.openChannel (h : c.Agrees c') (now : Nat) (server : Server) (s : NetworkSession) :
    (c.openChannel now server s).client.Agrees (c'.openChannel now server s).client := by
  refine agrees_of_blind (f := fun d => (d.openChannel now server s).client) (fun d => ?_) (fun d m => ?_) h
  · unfold Client.openChannel
    simp only
    split <;> rfl
  · unfold Client.openChannel
    simp only
    split <;> rfl

theorem Agrees.openChannel_acts (h : c.Agrees c') (now : Nat) (server : Server) (s : NetworkSession) :
    (c'.openChannel now server s).acts = (c.openChannel now server s).acts := by
  rw [h.rest]
  unfold Client.openChannel
  simp only
  split <;> rfl

theorem Agrees.follow (h : c.Agrees c') (now : Nat) (server : Server)
    (course : Course (Except SessionError Session)) :
    let r := c.follow now server course
    let r' := c'.follow now server course
    r.client.Agrees r'.client ∧ r'.acts = r.acts := by
  have hdone := (h.passDuring now course.acts).perform course.acts
  unfold Client.follow
  simp only
  split
  · exact ⟨hdone, rfl⟩
  · exact ⟨hdone.refresh, rfl⟩
  · rename_i s _
    refine ⟨hdone.openChannel (now + duration course.acts) server s, ?_⟩
    exact congrArg (course.acts ++ ·) (hdone.openChannel_acts (now + duration course.acts) server s)

theorem Agrees.start (h : c.Agrees c') (now : Nat) (endpoint : Endpoint) (server : Server) (s : Start) :
    let r := c.start now endpoint server s
    let r' := c'.start now endpoint server s
    r.client.Agrees r'.client ∧ r'.acts = r.acts := by
  have hcourse : c'.lobby.start c'.settings.setupDelay endpoint s = c.lobby.start c.settings.setupDelay endpoint s := by
    rw [h.rest]
  rw [start_eq_follow, start_eq_follow, hcourse]
  exact h.follow now server _

theorem Agrees.keep (h : c.Agrees c') (batch : List Event) : (c.keep batch).Agrees (c'.keep batch) := by
  refine agrees_of_blind (f := fun d => d.keep batch) (fun d => ?_) (fun d m => ?_) h
  · rw [keep_rest]
  · have hme : me { d with topics := m } = d.me := rfl
    unfold Client.keep
    simp only [hme]
    split <;> rfl

theorem Agrees.takeBatch (h : c.Agrees c') (hattentive : c.Attentive) (batch : List Event) :
    (c.takeBatch batch).Agrees (c'.takeBatch batch) := by
  rw [takeBatch_eq c batch hattentive, takeBatch_eq c' batch (h.attentive hattentive)]
  apply Agrees.keep
  refine ⟨?_, ?_⟩
  · calc
      _ = c'.topics.closed := foldl_deliver_closed c' _
      _ = c.topics.closed := h.streams
      _ = _ := (foldl_deliver_closed c _).symm
  · rw [h.rest]

theorem Agrees.takeLoss (h : c.Agrees c') (reason : Option String) :
    (c.takeLoss reason).Agrees (c'.takeLoss reason) := by
  refine ⟨rfl, ?_⟩
  rw [h.rest]
  rfl

theorem Agrees.reset (h : c.Agrees c') : c.reset.Agrees c'.reset := by
  refine ⟨rfl, ?_⟩
  rw [h.rest]
  rfl

theorem Agrees.notices_eq (h : c.Agrees c') : c'.notices = c.notices := by
  rw [h.rest]
  rfl

theorem Agrees.isToldAll_eq (h : c.Agrees c') : c'.isToldAll = c.isToldAll := by
  rw [h.rest]
  rfl

theorem Agrees.clearNotices (h : c.Agrees c') : c.clearNotices.Agrees c'.clearNotices := by
  refine agrees_of_blind (fun d => ?_) (fun d m => ?_) h
  · unfold Client.clearNotices
    split <;> rfl
  unfold Client.clearNotices
  simp only
  split <;> rfl

theorem Agrees.foldl_take (h : c.Agrees c') (hattentive : c.Attentive) (ns : List Notice) (n n' : Nat) :
    let taken := ns.foldl (fun p n => (p.1.take n, p.2 + p.1.handedOut n)) (c, n)
    let taken' := ns.foldl (fun p n => (p.1.take n, p.2 + p.1.handedOut n)) (c', n')
    taken.1.Agrees taken'.1 := by
  induction ns generalizing c c' n n' with
  | nil => exact h
  | cons notice ns ih =>
    cases notice with
    | batch events => exact ih (h.takeBatch hattentive events) (hattentive.takeBatch events) _ _
    | closed reason => exact ih (h.takeLoss reason) (hattentive.takeLoss reason) _ _

theorem Agrees.pump (h : c.Agrees c') (hattentive : c.Attentive) : c.pump.1.Agrees c'.pump.1 := by
  have htaken : c.takeNotices.1.Agrees c'.takeNotices.1 := by
    unfold takeNotices
    rw [h.notices_eq]
    exact h.clearNotices.foldl_take hattentive.clearNotices c.notices 0 0
  unfold Client.pump
  simp only [htaken.isToldAll_eq]
  split
  · exact agrees_of_blind (f := fun d => { d with inbound := none }) (fun _ => rfl) (fun _ _ => rfl) htaken
  · exact htaken

theorem Agrees.frame {σ : Type} (h : c.Agrees c') (hattentive : c.Attentive) (sim : Simulation σ) (scene : σ)
    (now : Nat) (seconds : Float) :
    (c.frame sim scene now seconds).client.Agrees (c'.frame sim scene now seconds).client := by
  have hpumped := h.pump hattentive
  have hinputs : c'.pump.1.composer.current = c.pump.1.composer.current := by rw [hpumped.rest]
  unfold Client.frame
  simp only [hinputs]
  exact hpumped.sendSnapshot now _

end Client

def Happening.isSubscribers : Happening → Bool
  | .subscribe _ | .read _ | .unsubscribe _ => true
  | _ => false

namespace Timeline

structure Agrees (t t' : Timeline) : Prop where
  client : t.client.Agrees t'.client
  now : t'.now = t.now

variable {t t' : Timeline}

theorem Agrees.symm (h : t.Agrees t') : t'.Agrees t :=
  ⟨h.client.symm, h.now.symm⟩

theorem Agrees.skip (h : t.Agrees t') {x : Happening} (hx : x.isSubscribers = true) : t.Agrees (t'.step x) := by
  have honly : ∀ f : Multiplexer → Multiplexer, (∀ m, (f m).closed = m.closed) →
      t.Agrees { t' with client := t'.client.onTopics f } := fun f hf => ⟨h.client.onTopics hf, h.now⟩
  cases x with
  | subscribe topic => exact honly (fun m => m.subscribe topic) fun _ => rfl
  | read i => exact honly (fun m => m.modify i Subscription.clear) fun _ => rfl
  | unsubscribe i => exact honly (fun m => m.modify i Subscription.drop) fun _ => rfl
  | _ => cases hx

theorem Agrees.step (h : t.Agrees t') (hattentive : t.client.Attentive) (x : Happening) :
    (t.step x).Agrees (t'.step x) := by
  obtain ⟨c', now'⟩ := t'
  obtain ⟨hclient, hnow⟩ := h
  change now' = t.now at hnow
  subst hnow
  cases x with
  | start endpoint server s =>
    obtain ⟨hstarted, hacts⟩ := hclient.start t.now endpoint server s
    exact ⟨hstarted, congrArg (fun acts => t.now + duration acts) hacts⟩
  | subscribe | read | unsubscribe =>
    have hboth : Agrees t ⟨c', t.now⟩ := ⟨hclient, rfl⟩
    exact ((hboth.skip rfl).symm.skip rfl).symm
  | type e => exact ⟨hclient.type e, rfl⟩
  | pump => exact ⟨hclient.pump hattentive, rfl⟩
  | frame sim scene seconds => exact ⟨hclient.frame hattentive sim scene t.now seconds, rfl⟩
  | sendSnapshot objects => exact ⟨hclient.sendSnapshot t.now objects, rfl⟩
  | nextTick =>
    exact ⟨Client.agrees_of_blind (f := fun d => d.nextTick.1) (fun _ => rfl) (fun _ _ => rfl) hclient, rfl⟩
  | reset => exact ⟨hclient.reset, rfl⟩
  | push | hangUp | dropServer | fail | turn => exact ⟨hclient.onConnection _ _, rfl⟩
  | settle =>
    exact ⟨Client.agrees_of_blind (f := fun d => d.settle t.now) (fun _ => rfl) (fun _ _ => rfl) hclient, rfl⟩
  | pass ms => exact ⟨hclient.pass t.now (t.now + ms), rfl⟩

theorem Agrees.pumped_eq (h : t.Agrees t') (x : Happening) : t'.pumped x = t.pumped x := by
  cases x with
  | pump | frame => exact congrArg (List.flatMap Notice.events) h.client.notices_eq
  | _ => rfl

end Timeline

end PaddleLink
