import PaddleLink.Proofs.Client.Feeds

namespace PaddleLink

namespace Client

/-- Two states of a client with the same session, keys and inputs, which listens to the same channel. -/
structure Alike (c c' : Client) : Prop where
  lobby : c'.lobby = c.lobby
  composer : c'.composer = c.composer
  keyboard : c'.keyboard = c.keyboard
  inbound : c'.inbound = c.inbound

theorem alike_refl (c : Client) : c.Alike c :=
  ⟨rfl, rfl, rfl, rfl⟩

theorem alike_settle (c : Client) (now : Nat) : c.Alike (c.settle now) :=
  ⟨rfl, rfl, rfl, rfl⟩

theorem alike_pass (c : Client) (now until_ : Nat) : c.Alike (c.pass now until_) := by
  unfold pass
  simp only
  split
  · exact ⟨rfl, rfl, rfl, rfl⟩
  · exact alike_settle c now

theorem alike_passDuring (c : Client) (now : Nat) (acts : List Act) : c.Alike (c.passDuring now acts) := by
  unfold passDuring
  split
  · exact alike_refl c
  · exact alike_pass c _ _

theorem alike_sendSnapshot (c : Client) (now : Nat) (objects : List GameObject) :
    c.Alike (c.sendSnapshot now objects).1 := by
  unfold sendSnapshot
  split
  · exact alike_refl c
  · split
    · exact ⟨rfl, rfl, rfl, rfl⟩
    · exact alike_refl c

theorem alike_nextTick (c : Client) : c.Alike c.nextTick.1 :=
  ⟨rfl, rfl, rfl, rfl⟩

theorem alike_clearNotices (c : Client) : c.Alike c.clearNotices := by
  unfold clearNotices
  split
  · exact ⟨rfl, rfl, rfl, rfl⟩
  · exact alike_refl c

theorem alike_onTopics (c : Client) (f : Multiplexer → Multiplexer) : c.Alike (c.onTopics f) :=
  ⟨rfl, rfl, rfl, rfl⟩

theorem alike_onConnection (c : Client) (i : Nat) (f : Connection → Connection) :
    c.Alike (c.onConnection i f) :=
  ⟨rfl, rfl, rfl, rfl⟩

/-- A batch changes the lobby as its session events say. It may end the heartbeats, and that is all that it does
to the channel. -/
theorem takeBatch_parts (c : Client) (batch : List Event) (h : c.Attentive) :
    let l := c.lobby.after (c.lobby.reconcileAll (sessionEvents batch))
    let c' := c.takeBatch batch
    c'.lobby = l ∧ c'.connections = c.connections ∧ c'.inbound = c.inbound ∧ c'.Attentive ∧
      c'.lastSnapshot = c.lastSnapshot ∧
      c'.pulse = if sessionEvents batch ≠ [] ∧ l.lifecycle = .closed then none else c.pulse := by
  intro l c'
  have htaken := takeBatch_eq c batch h
  have hkept : c' = _ := htaken.trans (keep_rest _ batch)
  have hroom : c'.ticks.length ≤ tickLimit := by
    rw [show c' = _ from htaken, ticks_keep]
    exact length_rtake_le _ tickLimit
  have hattentive : c'.Attentive := by
    refine ⟨?_, ?_, hroom⟩
    · rw [hkept]
      exact (foldl_deliver_closed c _).trans h.streams
    · rw [hkept]
      exact h.feeds
  refine ⟨?_, ?_, ?_, hattentive, ?_, ?_⟩ <;> rw [hkept]

theorem Attentive.clearNotices {c : Client} (h : c.Attentive) : c.clearNotices.Attentive := by
  unfold Client.clearNotices
  split
  · exact ⟨h.streams, h.feeds, h.room⟩
  · exact h

theorem Attentive.takeBatch {c : Client} (h : c.Attentive) (batch : List Event) : (c.takeBatch batch).Attentive :=
  (takeBatch_parts c batch h).2.2.2.1

theorem Attentive.takeLoss {c : Client} (h : c.Attentive) (reason : Option String) : (c.takeLoss reason).Attentive :=
  ⟨rfl, rfl, h.room⟩

theorem Attentive.take {c : Client} (h : c.Attentive) (n : Notice) : (c.take n).Attentive := by
  cases n with
  | batch events => exact h.takeBatch events
  | closed reason => exact h.takeLoss reason

/-- What the batches that were told and losses keep is kept when everything is taken. -/
theorem pump_keeps_of_told {P : Client → Prop} {c : Client} (hc : c.Attentive) (hcleared : P c.clearNotices)
    (hbatch : ∀ d batch, Notice.batch batch ∈ c.notices → d.Attentive → P d → P (d.takeBatch batch))
    (hloss : ∀ d reason, P d → P (d.takeLoss reason)) (hend : ∀ d, P d → P { d with inbound := none }) :
    P c.pump.1 := by
  have hfold : ∀ (ns : List Notice) (d : Client) (count : Nat), ns ⊆ c.notices → d.Attentive → P d →
      P (ns.foldl (fun p n => (p.1.take n, p.2 + p.1.handedOut n)) (d, count)).1 := by
    intro ns
    induction ns with
    | nil => exact fun d count _ _ hd => hd
    | cons n ns ih =>
      intro d count htold hattentive hd
      obtain ⟨hn, hrest⟩ := List.cons_subset.mp htold
      refine ih (d.take n) _ hrest (hattentive.take n) ?_
      cases n with
      | batch events => exact hbatch d events hn hattentive hd
      | closed reason => exact hloss d reason hd
  have htaken : P c.takeNotices.1 := hfold c.notices c.clearNotices 0 (List.Subset.refl _) hc.clearNotices hcleared
  unfold pump
  simp only
  split
  · exact hend _ htaken
  · exact htaken

/-- What batches and losses keep is kept when everything is taken that the channel has told. -/
theorem pump_keeps {P : Client → Prop} {c : Client} (hc : c.Attentive) (hcleared : P c.clearNotices)
    (hbatch : ∀ d batch, d.Attentive → P d → P (d.takeBatch batch))
    (hloss : ∀ d reason, P d → P (d.takeLoss reason)) (hend : ∀ d, P d → P { d with inbound := none }) :
    P c.pump.1 :=
  pump_keeps_of_told hc hcleared (fun d batch _ => hbatch d batch) hloss hend

/-- Time lets the loops come to rest. With heartbeats it also runs the checks on the held channel. -/
theorem pass_cases (c : Client) (now until_ : Nat) :
    c.pass now until_ = c.settle now ∨
      ∃ p k, (c.settle now).pulse = some p ∧ (c.settle now).connections.held = some k ∧
        c.pass now until_ = { c.settle now with
          pulse := some (p.run c.lastSnapshot k.link now until_).1
          connections := (c.settle now).connections.mapHeld fun l => (p.run c.lastSnapshot l now until_).2 } := by
  unfold pass
  simp only
  split
  · rename_i p k hp hk
    refine .inr ⟨p, k, hp, hk, ?_⟩
    rw [Connections.mapHeld, hk]
    rfl
  · exact .inl rfl

def follow (c : Client) (now : Nat) (server : Server) (course : Course (Except SessionError Session)) : Started :=
  let c := (c.passDuring now course.acts).perform course.acts
  match course.result with
  | .error e => ⟨.error e, course.acts, c⟩
  | .ok .solo => ⟨.ok .solo, course.acts, c.refresh⟩
  | .ok (.network session) =>
    let opened := c.openChannel (now + duration course.acts) server session
    { opened with acts := course.acts ++ opened.acts }

theorem start_eq_follow (c : Client) (now : Nat) (endpoint : Endpoint) (server : Server) (s : Start) :
    c.start now endpoint server s =
      c.follow now server (c.lobby.start c.settings.setupDelay endpoint s) := rfl

theorem openChannel_result (c : Client) (now : Nat) (server : Server) (s : NetworkSession) :
    (c.openChannel now server s).result = .ok (.network s) ∨
      (∃ e, (c.openChannel now server s).result = .error e) ∧
        (c.openChannel now server s).client.lobby.session = none := by
  unfold openChannel
  simp only
  split
  · exact .inl rfl
  · exact .inr ⟨⟨_, rfl⟩, rfl⟩

end Client

end PaddleLink
