import PaddleLink.Proofs.Client.Resources
import PaddleLink.Proofs.Paddles.Remote

/-!
The inputs that a client publishes. At every time they are what the history says: the held keys for the slots
of the keyboard, and what the player of the roster has sent last for the slots of the network.
-/

namespace PaddleLink

def keyboardAfter (typed : List KeyEvent) : Keyboard :=
  typed.foldl Keyboard.after .empty

/-- A key event that changes nothing leaves the held keys and their order alone. -/
theorem Keyboard.after_of_not_isChangedBy {k : Keyboard} {e : KeyEvent} (h : ¬ k.isChangedBy e) : k.after e = k := by
  cases e with
  | press key =>
    have hheld : key ∈ k.held := by simpa [Keyboard.isChangedBy] using h
    simp [Keyboard.after, Keyboard.press, hheld]
  | release key =>
    have hfree : key ∉ k.held := by simpa [Keyboard.isChangedBy] using h
    have hkeep : k.held.filter (· ≠ key) = k.held := by
      apply List.filter_eq_self.mpr
      intro key' hmem
      simpa using fun he : key' = key => hfree (he ▸ hmem)
    simp only [Keyboard.after, Keyboard.release, hkeep]
  | clear =>
    have hnone : k.held = [] := by simpa [Keyboard.isChangedBy] using h
    rw [Keyboard.after, Keyboard.empty, ← hnone]
  | focus gained =>
    cases gained with
    | true => rfl
    | false =>
      have hnone : k.held = [] := by simpa [Keyboard.isChangedBy] using h
      simp only [Keyboard.after, Keyboard.empty, Bool.false_eq_true, if_false, ← hnone]

namespace Client

/-- The published inputs agree with the session, the keys and the events heard since its channel was
opened. Without one nothing is known of other players. -/
structure UpToDate (c : Client) (typed : List KeyEvent) (heard : List Event) : Prop where
  keyboard : c.keyboard = keyboardAfter typed
  published : c.composer.current = compose c.lobby.session c.keyboard c.composer.remote
  remote : ∀ s, c.lobby.session = some (.network s) → ∀ player,
    c.composer.remote.inputsOf player =
      if player = s.me.id then [] else lastInputs (inputEvents heard) player
  offline : c.lobby.session.bind Session.network? = none →
    c.composer.remote = .empty ∧ c.inbound = none
  begun : c.lobby.Begun

variable {c c' : Client} {typed : List KeyEvent} {heard : List Event}

theorem upToDate_fresh (settings : Settings) (base : Url) : (fresh settings base).UpToDate [] [] where
  keyboard := rfl
  published := rfl
  remote := fun _ h => by cases h
  offline := fun _ => ⟨rfl, rfl⟩
  begun := Lobby.begun_initial

theorem UpToDate.of_alike (h : c.UpToDate typed heard) (ha : c.Alike c') : c'.UpToDate typed heard where
  keyboard := ha.keyboard.trans h.keyboard
  published := by rw [ha.composer, ha.lobby, ha.keyboard]; exact h.published
  remote := by rw [ha.composer, ha.lobby]; exact h.remote
  offline := by
    rw [ha.composer, ha.lobby]
    exact fun hs => ⟨(h.offline hs).1, ha.inbound.trans (h.offline hs).2⟩
  begun := by rw [ha.lobby]; exact h.begun

theorem refresh_published (c : Client) :
    c.refresh.composer.current = compose c.lobby.session c.keyboard c.composer.remote := by
  simp only [refresh, Composer.recompute]
  split
  · rename_i h
    exact h.symm
  · rfl

theorem refresh_remote (c : Client) : c.refresh.composer.remote = c.composer.remote := by
  simp only [refresh, Composer.recompute]
  split <;> rfl

theorem keep_lobby (c : Client) (batch : List Event) : (c.keep batch).lobby = c.lobby := by
  unfold keep
  simp only
  split <;> rfl

/-- Composing anew brings the published inputs up to date, whatever was published before. -/
theorem upToDate_refresh
    (hk : c.keyboard = keyboardAfter typed)
    (hr : ∀ s, c.lobby.session = some (.network s) → ∀ player,
      c.composer.remote.inputsOf player =
        if player = s.me.id then [] else lastInputs (inputEvents heard) player)
    (ho : c.lobby.session.bind Session.network? = none →
      c.composer.remote = .empty ∧ c.inbound = none)
    (hb : c.lobby.Begun) : c.refresh.UpToDate typed heard where
  keyboard := hk
  published := by rw [refresh_remote]; exact refresh_published c
  remote := by rw [refresh_remote]; exact hr
  offline := by rw [refresh_remote]; exact ho
  begun := hb

theorem upToDate_type (h : c.UpToDate typed heard) (e : KeyEvent) :
    (c.type e).UpToDate (typed ++ [e]) heard := by
  have hafter : keyboardAfter (typed ++ [e]) = c.keyboard.after e := by
    rw [h.keyboard, keyboardAfter, List.foldl_append]
    rfl
  unfold type
  by_cases hc : c.keyboard.isChangedBy e
  · rw [if_pos hc]
    exact upToDate_refresh hafter.symm h.remote h.offline h.begun
  · rw [if_neg hc]
    have hsame : c.keyboard.after e = c.keyboard := Keyboard.after_of_not_isChangedBy hc
    exact { h with keyboard := by rw [hafter, hsame] }

/-- What a client keeps of a batch brings it up to date, when the batch's session events have changed at most
the state and the players of its session, and nothing has changed without such events. -/
theorem upToDate_keep (h : c.UpToDate typed heard) {s : NetworkSession}
    (hs : c'.lobby.session = some (.network s)) (hme : ∀ s', c.lobby.session = some (.network s') → s.me = s'.me)
    (hnet : ∃ s', c.lobby.session = some (.network s')) (hcomposer : c'.composer = c.composer)
    (hkeyboard : c'.keyboard = c.keyboard) (hb : c'.lobby.Begun) (batch : List Event)
    (hquiet : sessionEvents batch = [] → c'.lobby = c.lobby) :
    (c'.keep batch).UpToDate typed (heard ++ batch) := by
  obtain ⟨s', hs'⟩ := hnet
  have hwho : c'.me = some s.me.id := by simp [me, hs, Session.network?]
  have hremote : ∀ player, (c'.composer.remote.applyAll c'.me (inputEvents batch)).inputsOf player =
      if player = s.me.id then [] else lastInputs (inputEvents (heard ++ batch)) player := by
    intro player
    have hsplit : inputEvents (heard ++ batch) = inputEvents heard ++ inputEvents batch := by
      rw [inputEvents, List.filterMap_append]
      rfl
    rw [hwho, hcomposer, hsplit]
    apply RemoteInputs.inputsOf_applyAll
    rw [hme s' hs']
    exact h.remote s' hs'
  have hsame : ∀ t, c'.lobby.session = some (.network t) → t = s := by
    intro t ht
    rw [hs] at ht
    cases ht
    rfl
  have hnetwork : c'.lobby.session.bind Session.network? ≠ none := by simp [hs, Session.network?]
  unfold keep
  simp only
  split
  · refine upToDate_refresh (hkeyboard.trans h.keyboard) ?_ (fun hn => absurd hn hnetwork) hb
    intro t ht
    rw [hsame t ht]
    exact hremote
  · rename_i hch
    -- without news the table, the session and the keys are those of the last time
    have hno : sessionEvents batch = [] ∧
        c'.composer.remote.changedByAny c'.me (inputEvents batch) = false := by
      simpa using hch
    have hrec : c'.composer.remote.applyAll c'.me (inputEvents batch) = c.composer.remote := by
      rw [RemoteInputs.applyAll_of_not_changedByAny hno.2, hcomposer]
    refine ⟨hkeyboard.trans h.keyboard, ?_, ?_, fun hn => absurd hn hnetwork, hb⟩
    · simp only [Composer.record, hrec, hkeyboard, hquiet hno.1]
      rw [hcomposer]
      exact h.published
    · intro t ht
      rw [hsame t ht]
      exact hremote

theorem upToDate_takeBatch (hc : c.Attentive) (h : c.UpToDate typed heard) {s : NetworkSession}
    (hs : c.lobby.session = some (.network s)) (batch : List Event) :
    (c.takeBatch batch).UpToDate typed (heard ++ batch) ∧
      ∃ s', (c.takeBatch batch).lobby.session = some (.network s') := by
  -- reconciling may change the state and the players of the session, but not who this client is in it
  let l := c.lobby.after (c.lobby.reconcileAll (sessionEvents batch))
  have hseat : l.session.map Session.seat = c.lobby.session.map Session.seat :=
    Lobby.seat_after_reconcileAll c.lobby (sessionEvents batch)
  rw [hs] at hseat
  obtain ⟨t, ht, hts⟩ := Option.map_eq_some_iff.mp hseat
  obtain ⟨s', rfl, -, -, hme⟩ := Session.seat_eq_of_network hts
  have hme' : ∀ t, c.lobby.session = some (.network t) → s'.me = t.me := by
    intro t ht
    rw [hs] at ht
    cases ht
    exact hme
  have hbegun : l.Begun := Lobby.begun_after_reconcileAll h.begun _
  have hquiet : sessionEvents batch = [] → l = c.lobby := by
    intro he
    simp only [l, he]
    rfl
  rw [takeBatch_eq c batch hc]
  constructor
  · apply upToDate_keep h ht hme' ⟨s, hs⟩
    · rfl
    · rfl
    · exact hbegun
    · exact hquiet
  · exact ⟨s', (congrArg Lobby.session (keep_lobby _ batch)).trans ht⟩

theorem upToDate_take (hc : c.Attentive) (h : c.UpToDate typed heard) {s : NetworkSession}
    (hs : c.lobby.session = some (.network s)) (n : Notice) :
    (c.take n).UpToDate typed (heard ++ n.events) ∧
      ∃ s', (c.take n).lobby.session = some (.network s') := by
  cases n with
  | batch events => exact upToDate_takeBatch hc h hs events
  | closed reason =>
    have hnetwork : c.lobby.session.bind Session.network? ≠ none := by simp [hs, Session.network?]
    refine ⟨?_, s, hs⟩
    rw [Notice.events, List.append_nil]
    exact ⟨h.keyboard, h.published, h.remote, fun hn => absurd hn hnetwork, h.begun⟩

theorem upToDate_foldl_take (ns : List Notice) (count : Nat) (hc : c.Attentive) (h : c.UpToDate typed heard)
    {s : NetworkSession} (hs : c.lobby.session = some (.network s)) :
    (ns.foldl (fun (c, count) n => (c.take n, count + c.handedOut n)) (c, count)).1.UpToDate typed
      (heard ++ ns.flatMap Notice.events) := by
  induction ns generalizing c count heard s with
  | nil => simpa using h
  | cons n ns ih =>
    obtain ⟨ht, s', hs'⟩ := upToDate_take hc h hs n
    simpa using ih (count + c.handedOut n) (hc.take n) ht hs'

theorem upToDate_takeNotices (hc : c.Attentive) (h : c.UpToDate typed heard) :
    c.takeNotices.1.UpToDate typed (heard ++ c.notices.flatMap Notice.events) := by
  have hclear : c.clearNotices.UpToDate typed heard := h.of_alike (alike_clearNotices c)
  cases hs : c.lobby.session.bind Session.network? with
  | none =>
    have hnone : c.notices = [] := by simp [notices, listened?, (h.offline hs).2]
    rw [takeNotices, hnone]
    simpa using hclear
  | some s =>
    have hnet : c.lobby.session = some (.network s) := by
      obtain ⟨t, ht, hts⟩ := Option.bind_eq_some_iff.mp hs
      cases t with
      | solo => cases hts
      | network s' => cases hts; exact ht
    exact upToDate_foldl_take c.notices 0 hc.clearNotices hclear ((alike_clearNotices c).lobby ▸ hnet)

theorem upToDate_pump (hc : c.Attentive) (h : c.UpToDate typed heard) :
    c.pump.1.UpToDate typed (heard ++ c.notices.flatMap Notice.events) := by
  have ht := upToDate_takeNotices hc h
  unfold pump
  simp only
  split
  · exact ⟨ht.keyboard, ht.published, ht.remote, fun hn => ⟨(ht.offline hn).1, rfl⟩, ht.begun⟩
  · exact ht

theorem upToDate_openChannel (server : Server) (s : NetworkSession) (now : Nat)
    (hk : c.keyboard = keyboardAfter typed) (hc : c.composer.remote = .empty)
    (hp : c.composer.current = []) (hi : c.inbound = none) (hl : c.lobby.lifecycle = .running)
    (hs : c.lobby.session = some (.network s)) :
    (c.openChannel now server s).client.UpToDate typed [] := by
  have hempty : ∀ player, RemoteInputs.empty.inputsOf player =
      if player = s.me.id then [] else lastInputs (inputEvents []) player := by
    intro player
    split <;> rfl
  have hbegun : c.lobby.Begun := by simp [Lobby.Begun, hl, hs]
  unfold openChannel
  simp only
  split
  · refine upToDate_refresh hk ?_ ?_ hbegun
    · intro t ht
      simp only [hs, Option.some.injEq, Session.network.injEq] at ht
      rw [← ht]
      simpa only [hc] using hempty
    · intro hn
      simp [hs, Session.network?] at hn
  · exact
      { keyboard := hk
        published := hp
        remote := fun t ht => by cases ht
        offline := fun _ => ⟨hc, hi⟩
        begun := ⟨fun _ => rfl, fun _ => rfl⟩ }

/-- Without a session with a server it does not matter what was heard. -/
theorem UpToDate.forget (h : c.UpToDate typed heard) (hs : c.lobby.session = none) (heard' : List Event) :
    c.UpToDate typed heard' :=
  { h with remote := fun s hs' => by rw [hs] at hs'; cases hs' }

theorem upToDate_follow (h : c.UpToDate typed heard) (now : Nat) (endpoint : Endpoint) (server : Server)
    (s : Start) (course : Course (Except SessionError Session))
    (houtcome : c.lobby.StartOutcome endpoint s course) :
    (c.follow now server course).client.UpToDate typed
      (if (c.follow now server course).isNetwork then [] else heard) := by
  have ha := alike_passDuring c now course.acts
  have hw := h.of_alike ha
  have hidle : c.lobby.lifecycle = .uninitialized →
      c.composer.remote = .empty ∧ c.composer.current = [] ∧ c.inbound = none := by
    intro hl
    have hnone := h.begun.mp hl
    have hoff := h.offline (by rw [hnone]; rfl)
    refine ⟨hoff.1, ?_, hoff.2⟩
    rw [h.published, hnone]
    rfl
  cases houtcome with
  | busy hl => exact hw
  | failed acts r e hl hr answer after =>
    have hclient : (c.passDuring now acts).perform acts =
        { c.passDuring now acts with
          lobby := { (c.passDuring now acts).lobby with status := .failed e.message } } := by
      rw [perform, ha.lobby, after]
    show ((c.passDuring now acts).perform acts).UpToDate typed heard
    rw [hclient]
    exact ⟨hw.keyboard, hw.published, hw.remote, hw.offline, hw.begun⟩
  | solo acts hl hs after =>
    obtain ⟨hremote, -, hinbound⟩ := hidle hl
    have hsolo : ((c.passDuring now acts).perform acts).lobby = ⟨some .solo, .idle, .running⟩ := by
      rw [perform, ha.lobby]
      exact after
    refine upToDate_refresh hw.keyboard ?_ (fun _ => ⟨ha.composer ▸ hremote, ha.inbound.trans hinbound⟩) ?_
    · intro t ht
      rw [hsolo] at ht
      cases ht
    · simp [hsolo, Lobby.Begun]
  | granted acts r g hl hr answer after =>
    obtain ⟨hremote, hcurrent, hinbound⟩ := hidle hl
    have hgranted : ((c.passDuring now acts).perform acts).lobby =
        ⟨some (.network (g.sessionAs r.role)), .idle, .running⟩ := by
      rw [perform, ha.lobby]
      exact after
    have hopened := upToDate_openChannel (c := (c.passDuring now acts).perform acts) server
      (g.sessionAs r.role) (now + duration acts) hw.keyboard (ha.composer ▸ hremote) (ha.composer ▸ hcurrent)
      (ha.inbound.trans hinbound) (by rw [hgranted]) (by rw [hgranted])
    rcases openChannel_result ((c.passDuring now acts).perform acts) (now + duration acts) server
      (g.sessionAs r.role) with hok | ⟨-, hnone⟩
    · simpa [follow, Started.isNetwork, hok] using hopened
    · exact hopened.forget hnone _

theorem upToDate_reset (h : c.UpToDate typed heard) : c.reset.UpToDate typed heard where
  keyboard := h.keyboard
  published := rfl
  remote := fun _ hs => by cases hs
  offline := fun _ => ⟨rfl, rfl⟩
  begun := ⟨fun _ => rfl, fun _ => rfl⟩

end Client

/-- Whatever happens, the client stays up to date with its chronicle. -/
theorem Chronicle.upToDate_step {r : Chronicle} (hc : r.client.Attentive) (h : r.client.UpToDate r.typed r.heard) (x : Happening) :
    (r.step x).client.UpToDate (r.step x).typed (r.step x).heard := by
  obtain ⟨⟨c, now⟩, typed, heard⟩ := r
  change c.Attentive at hc
  change c.UpToDate typed heard at h
  -- most happenings touch neither the keys nor the session nor the table
  have hquiet : ∀ c', c.Alike c' → c'.UpToDate (typed ++ []) (heard ++ []) := by
    intro c' ha
    simpa using h.of_alike ha
  have hpump : c.pump.1.UpToDate (typed ++ []) (heard ++ c.notices.flatMap Notice.events) := by
    simpa using Client.upToDate_pump hc h
  cases x with
  | start endpoint server s =>
    have hs := Client.upToDate_follow h now endpoint server s _
      (c.lobby.startOutcome c.settings.setupDelay endpoint s)
    rw [← Client.start_eq_follow c now endpoint server s, ← List.append_nil typed, ← List.append_nil heard] at hs
    exact hs
  | type e =>
    have hs := Client.upToDate_type h e
    rw [← List.append_nil heard] at hs
    exact hs
  | pump => exact hpump
  | frame sim scene seconds =>
    exact hpump.of_alike (Client.alike_sendSnapshot _ now _)
  | sendSnapshot objects => exact hquiet _ (Client.alike_sendSnapshot c now objects)
  | nextTick => exact hquiet _ (Client.alike_nextTick c)
  | reset =>
    have hs := Client.upToDate_reset h
    rw [← List.append_nil typed, ← List.append_nil heard] at hs
    exact hs
  | subscribe topic => exact hquiet _ (Client.alike_onTopics c fun m => m.subscribe topic)
  | read i => exact hquiet _ (Client.alike_onTopics c fun m => m.modify i Subscription.clear)
  | unsubscribe i => exact hquiet _ (Client.alike_onTopics c fun m => m.modify i Subscription.drop)
  | push i text => exact hquiet _ (Client.alike_onConnection c i _)
  | hangUp i => exact hquiet _ (Client.alike_onConnection c i _)
  | dropServer i => exact hquiet _ (Client.alike_onConnection c i _)
  | fail i e => exact hquiet _ (Client.alike_onConnection c i _)
  | turn i => exact hquiet _ (Client.alike_onConnection c i _)
  | settle => exact hquiet _ (Client.alike_settle c now)
  | pass ms => exact hquiet _ (Client.alike_pass c now _)

theorem Chronicle.upToDate_run {r : Chronicle} (hsound : r.client.Sound) (h : r.client.UpToDate r.typed r.heard) (xs : List Happening) :
    (r.run xs).client.UpToDate (r.run xs).typed (r.run xs).heard := by
  induction xs generalizing r with
  | nil => exact h
  | cons x xs ih => exact ih (Timeline.sound_step hsound x) (upToDate_step hsound.attentive h x)

end PaddleLink
