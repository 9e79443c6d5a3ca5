import PaddleLink.Proofs.Client.Speech

/-!
The end of a session. Once the server has closed it the client shows that, and is silent until it is reset.
Only an event can show the end: a session that is closed already when it is granted counts as running.
-/

namespace PaddleLink

namespace Lobby

variable {l : Lobby}

def IsOver (l : Lobby) : Prop :=
  ∃ s, l.session = some (.network s) ∧ s.state = .closed

def ShowsEnd (l : Lobby) : Prop :=
  l.lifecycle = .closed ↔ l.IsOver

theorem showsEnd_of_offline (hl : l.lifecycle ≠ .closed) (hs : ∀ s, l.session ≠ some (.network s)) : l.ShowsEnd :=
  ⟨fun h => absurd h hl, fun ⟨s, h, _⟩ => absurd h (hs s)⟩

/-- What the server tells of a session that it has closed is ignored. -/
theorem after_reconcileAll_of_isOver (h : l.IsOver) (es : List SessionEvent) : l.after (l.reconcileAll es) = l := by
  obtain ⟨s, hs, hclosed⟩ := h
  apply after_reconcileAll_of_stale
  intro s' hs'
  rw [hs] at hs'
  cases hs'
  exact hclosed

theorem showsEnd_after_reconcile (h : l.ShowsEnd) (e : SessionEvent) : (l.after (l.reconcile e).acts).ShowsEnd := by
  rw [after_reconcile]
  cases hs : l.sessionFor e with
  | error stale => exact h
  | ok s =>
    obtain ⟨hsession, hopen, -⟩ := of_sessionFor_eq_ok hs
    have hrunning : l.lifecycle ≠ .closed := by
      intro hc
      obtain ⟨s', hs', hclosed⟩ := h.mp hc
      rw [hsession] at hs'
      cases hs'
      exact hopen hclosed
    constructor
    · intro hc
      by_cases he : e.session.state = .closed
      · exact ⟨_, rfl, he⟩
      · exact absurd ((if_neg he).symm.trans hc) hrunning
    · rintro ⟨s', hs', hclosed⟩
      cases hs'
      exact if_pos hclosed

theorem showsEnd_after_reconcileAll (h : l.ShowsEnd) (es : List SessionEvent) :
    (l.after (l.reconcileAll es)).ShowsEnd := by
  induction es generalizing l with
  | nil => exact h
  | cons e es ih =>
    rw [reconcileAll, after_append]
    exact ih (showsEnd_after_reconcile h e)

end Lobby

namespace Client

variable {c c' : Client}

structure Candid (c : Client) : Prop where
  shows : c.lobby.ShowsEnd
  pulse : c.lobby.lifecycle = .closed → c.pulse = none

theorem candid_takeBatch (hattentive : c.Attentive) (h : c.Candid) (batch : List Event) :
    (c.takeBatch batch).Candid := by
  obtain ⟨hlobby, -, -, -, -, hpulse⟩ := takeBatch_parts c batch hattentive
  refine ⟨hlobby ▸ Lobby.showsEnd_after_reconcileAll h.shows _, fun hc => ?_⟩
  rw [hlobby] at hc
  rw [hpulse]
  by_cases hnone : sessionEvents batch = []
  -- without an event of the session the end had been shown before
  · rw [hnone] at hc
    rw [if_neg fun hover => hover.1 hnone]
    exact h.pulse hc
  · exact if_pos ⟨hnone, hc⟩

theorem candid_pump (hattentive : c.Attentive) (h : c.Candid) : c.pump.1.Candid := by
  refine pump_keeps hattentive ?_ (fun d batch hd h => candid_takeBatch hd h batch) ?_ ?_
  · unfold clearNotices
    split
    · exact ⟨h.shows, h.pulse⟩
    · exact h
  · exact fun d reason h => ⟨h.shows, fun _ => rfl⟩
  · exact fun d h => ⟨h.shows, h.pulse⟩

/-- Nothing that is told changes a session that is over. -/
theorem over_pump (hattentive : c.Attentive) (h : c.lobby.IsOver) :
    c.pump.1.lobby.session = c.lobby.session ∧ c.pump.1.lobby.lifecycle = c.lobby.lifecycle := by
  refine pump_keeps (P := fun d => d.lobby.session = c.lobby.session ∧ d.lobby.lifecycle = c.lobby.lifecycle) hattentive
    ?_ ?_ (fun _ _ hd => hd) (fun _ hd => hd)
  · rw [(alike_clearNotices c).lobby]
    exact ⟨rfl, rfl⟩
  · intro d batch hd hsame
    have hover : d.lobby.IsOver := by
      obtain ⟨s, hs, hclosed⟩ := h
      exact ⟨s, hsame.1.trans hs, hclosed⟩
    rw [(takeBatch_parts d batch hd).1, Lobby.after_reconcileAll_of_isOver hover]
    exact hsame

theorem sendSnapshot_of_isOver (h : c.lobby.IsOver) (now : Nat) (objects : List GameObject) :
    c.sendSnapshot now objects = (c, false) := by
  obtain ⟨s, hs, hclosed⟩ := h
  have hnone : c.snapshotNow? now objects = none := by
    unfold snapshotNow?
    split
    · rw [hs, Option.bind_some, snapshot?_network, if_pos hclosed]
    · rfl
  rw [sendSnapshot, hnone]

structure Silent (c : Client) : Prop where
  ended : c.lobby.IsOver
  pulse : c.pulse = none

theorem Mute.pulse_eq_none (h : c.Mute c') (hp : c.pulse = none) : c'.pulse = none := by
  cases hp' : c'.pulse with
  | none => rfl
  | some p' =>
    obtain ⟨p, hsome, -⟩ := h.pulse p' hp'
    rw [hp] at hsome
    cases hsome

theorem Silent.of_mute (h : c.Silent) (hm : c.Mute c') (hs : c'.lobby.session = c.lobby.session) : c'.Silent := by
  obtain ⟨s, hsession, hclosed⟩ := h.ended
  exact ⟨⟨s, hs.trans hsession, hclosed⟩, hm.pulse_eq_none h.pulse⟩

end Client

namespace Timeline

variable {t : Timeline}

/-- Only a reset ends the silence. -/
theorem silent_step (hsound : t.client.Sound) (h : t.client.Silent) {x : Happening} (hx : x ≠ .reset) :
    (t.step x).client.Silent ∧ (t.step x).client.connections.voices = t.client.connections.voices := by
  suffices hmute : t.client.Mute (t.step x).client ∧ (t.step x).client.lobby.session = t.client.lobby.session from
    ⟨h.of_mute hmute.1 hmute.2, hmute.1.voices⟩
  have hpump : t.client.Mute t.client.pump.1 := Client.mute_pump hsound.attentive
  have hsession : t.client.pump.1.lobby.session = t.client.lobby.session := (Client.over_pump hsound.attentive h.ended).1
  cases stepOutcome hsound x with
  | start endpoint server s happening ended =>
    have hbusy : t.client.lobby.lifecycle ≠ .uninitialized := by
      intro hidle
      obtain ⟨s, hs, -⟩ := h.ended
      rw [hsound.begun.mp hidle] at hs
      cases hs
    cases ended with
    | busy hl same =>
      rw [same]
      exact ⟨Client.mute_of_same rfl rfl rfl, rfl⟩
    | failed _ hl => exact absurd hl hbusy
    | solo hl => exact absurd hl hbusy
    | opened _ _ _ _ hl => exact absurd hl hbusy
    | aborted _ _ _ hl => exact absurd hl hbusy
  | pump origin client =>
    rw [client]
    exact ⟨hpump, hsession⟩
  | frame objects origin client =>
    rw [client, Client.sendSnapshot_of_isOver (h.of_mute hpump hsession).ended]
    exact ⟨hpump, hsession⟩
  | sendSnapshot objects origin client =>
    rw [client, Client.sendSnapshot_of_isOver h.ended]
    exact ⟨Client.mute_of_same rfl rfl rfl, rfl⟩
  | reset happening client => exact absurd happening hx
  | pass until_ origin client =>
    rw [client]
    exact ⟨Client.mute_pass _ _ h.pulse, by rw [(Client.alike_pass _ _ _).lobby]⟩
  | quiet origin tended pulse voices =>
    exact ⟨Client.mute_of_same voices tended.lobby pulse, by rw [tended.lobby]⟩

theorem voices_run_of_silent (hsound : t.client.Sound) (h : t.client.Silent) {ys : List Happening}
    (hys : Happening.reset ∉ ys) : (t.run ys).client.connections.voices = t.client.connections.voices := by
  induction ys generalizing t with
  | nil => rfl
  | cons y ys ih =>
    rw [List.mem_cons, not_or] at hys
    obtain ⟨hsilent, hvoices⟩ := silent_step hsound h fun hy => hys.1 hy.symm
    exact (ih (sound_step hsound y) hsilent hys.2).trans hvoices

end Timeline

namespace Client

/-- How the end of the session stands in a client with the origins of its channels. -/
inductive Ending (os : List Origin) (c : Client) : Prop where
  | shown (candid : c.Candid)
    (granted : ∀ s o, c.lobby.session = some (.network s) → os.getLast? = some o → o.grant.session.state ≠ .closed)
  /-- The session was granted when it was over. -/
  | hidden (o : Origin) (last : os.getLast? = some o) (granted : o.grant.session.state = .closed)
    (ended : c.lobby.IsOver) (lifecycle : c.lobby.lifecycle = .running)

variable {c c' : Client} {os : List Origin}

theorem ending_of_offline (hl : c.lobby.lifecycle ≠ .closed) (hs : ∀ s, c.lobby.session ≠ some (.network s)) :
    c.Ending os :=
  .shown ⟨Lobby.showsEnd_of_offline hl hs, fun h => absurd h hl⟩ fun s _ h => absurd h (hs s)

theorem Ending.of_same (h : c.Ending os) (hlobby : c'.lobby = c.lobby) (hpulse : c.pulse = none → c'.pulse = none) :
    c'.Ending os := by
  cases h with
  | shown candid granted =>
    refine .shown ⟨hlobby ▸ candid.shows, fun hc => hpulse (candid.pulse (hlobby ▸ hc))⟩ ?_
    rw [hlobby]
    exact granted
  | hidden o last granted ended lifecycle => exact .hidden o last granted (hlobby ▸ ended) (hlobby ▸ lifecycle)

theorem ending_pump (hattentive : c.Attentive) (h : c.Ending os) : c.pump.1.Ending os := by
  cases h with
  | shown candid granted =>
    refine .shown (candid_pump hattentive candid) fun s' o hs' => ?_
    obtain ⟨s, hs, -⟩ := (mute_pump hattentive).session s' hs'
    exact granted s o hs
  | hidden o last granted ended lifecycle =>
    obtain ⟨hsession, hlifecycle⟩ := over_pump hattentive ended
    obtain ⟨s, hs, hclosed⟩ := ended
    exact .hidden o last granted ⟨s, hsession.trans hs, hclosed⟩ (hlifecycle.trans lifecycle)

end Client

namespace Register

variable {r : Register}

theorem ending_start (hsound : r.client.Sound) (h : r.client.Ending r.origins) {endpoint : Endpoint}
    {server : Server} {s : Start} (ended : r.client.StartEnd endpoint s (r.step (.start endpoint server s)).client) :
    (r.step (.start endpoint server s)).client.Ending (r.step (.start endpoint server s)).origins := by
  cases ended with
  | busy hl same =>
    rw [r.origins_step_of_same (by rw [same]), same]
    exact h
  | failed e hl lobby waited =>
    refine Client.ending_of_offline ?_ fun s' hs' => ?_
    · rw [lobby, hl]
      simp
    · rw [lobby, hsound.begun.mp hl] at hs'
      cases hs'
  | solo hl request lobby waited => exact Client.ending_of_offline (by rw [lobby]; simp) (by rw [lobby]; simp)
  | opened request g k p hl hrequest answer lobby held target whole inbound pulse identity voices =>
    rw [r.origins_step_of_more (origin?_start server hrequest answer) voices]
    by_cases hg : g.session.state = .closed
    · exact .hidden ⟨request, g⟩ List.getLast?_concat hg ⟨_, by rw [lobby], hg⟩ (by rw [lobby])
    · refine .shown ⟨⟨?_, ?_⟩, ?_⟩ ?_
      · rw [lobby]
        intro hc
        cases hc
      · rw [lobby]
        rintro ⟨s', hs', hclosed⟩
        cases hs'
        exact absurd hclosed hg
      · rw [lobby]
        intro hc
        cases hc
      · intro s' o _ ho
        rw [List.getLast?_concat] at ho
        cases ho
        exact hg
  | aborted request g e hl hrequest answer lobby =>
    exact Client.ending_of_offline (by rw [lobby]; simp) (by rw [lobby]; simp)

theorem ending_run (settings : Settings) (base : Url) (xs : List Happening) :
    let r := (begin settings base).run xs
    r.client.Ending r.origins := by
  have hsend : ∀ os (c : Client) (now : Nat) (objects : List GameObject), c.Ending os →
      (c.sendSnapshot now objects).1.Ending os := by
    intro os c now objects h
    refine h.of_same (Client.alike_sendSnapshot c now objects).lobby fun hp => ?_
    have hsame := (Client.tended_sendSnapshot c now objects).pulse
    rw [hp] at hsame
    simpa using hsame
  have hpass : ∀ os (c : Client) (now until_ : Nat), c.Ending os → (c.pass now until_).Ending os := by
    intro os c now until_ h
    exact h.of_same (Client.alike_pass c now until_).lobby fun hp => (Client.mute_pass now until_ hp).pulse_eq_none hp
  exact (run_keeps (r := begin settings base) (Q := fun os c => c.Ending os)
    (fun _ _ _ _ hsound ended h => ending_start hsound h ended)
    (fun _ _ hsound h => Client.ending_pump hsound.attentive h) hsend
    (fun _ _ _ => Client.ending_of_offline (fun hl => by cases hl) (fun _ hs => by cases hs)) hpass
    (fun _ _ _ hlobby hpulse _ h => h.of_same hlobby fun hp => hpulse.trans hp)
    (Client.sound_fresh settings base)
    (Client.ending_of_offline (fun hl => by cases hl) (fun _ hs => by cases hs)) xs).2

/-- The end of a session is shown, unless the session had ended before it was granted. A client that shows it is
silent until it is reset; one that does not is shown as running. -/
theorem end_is_shown (settings : Settings) (base : Url) (xs : List Happening) :
    let r := (begin settings base).run xs
    let c := r.client
    (c.lobby.lifecycle = .closed → c.lobby.IsOver) ∧
    ∀ s, c.lobby.session = some (.network s) →
      ∃ o, r.origins.getLast? = some o ∧ s.target = o.target ∧
        (o.grant.session.state = .closed → s.state = .closed ∧ c.lobby.lifecycle = .running) ∧
        (s.state = .closed →
          (∀ now objects, c.sendSnapshot now objects = (c, false)) ∧
          (o.grant.session.state ≠ .closed →
            c.lobby.lifecycle = .closed ∧ c.pulse = none ∧
            ∀ ys, Happening.reset ∉ ys →
              (r.timeline.run ys).client.connections.voices = c.connections.voices)) := by
  intro r c
  obtain ⟨hsound, hfaithful⟩ := faithful_run settings base xs
  have hending : c.Ending r.origins := ending_run settings base xs
  refine ⟨?_, fun s hs => ?_⟩
  · intro hc
    cases hending with
    | shown candid granted => exact candid.shows.mp hc
    | hidden o last granted ended lifecycle => exact ended
  · obtain ⟨o, ho, htarget⟩ := hfaithful.session s hs
    refine ⟨o, ho, htarget, ?_, fun hclosed => ⟨Client.sendSnapshot_of_isOver ⟨s, hs, hclosed⟩, fun hg => ?_⟩⟩
    · intro hg
      cases hending with
      | shown candid granted => exact absurd hg (granted s o hs ho)
      | hidden o' last granted ended lifecycle =>
        obtain ⟨s', hs', hclosed⟩ := ended
        rw [hs] at hs'
        cases hs'
        exact ⟨hclosed, lifecycle⟩
    · cases hending with
      | shown candid granted =>
        have hshown : c.lobby.lifecycle = .closed := candid.shows.mpr ⟨s, hs, hclosed⟩
        have hquiet : c.pulse = none := candid.pulse hshown
        exact ⟨hshown, hquiet, fun ys hys =>
          Timeline.voices_run_of_silent hsound ⟨⟨s, hs, hclosed⟩, hquiet⟩ hys⟩
      | hidden o' last granted ended lifecycle =>
        rw [ho] at last
        cases last
        exact absurd granted hg

/-- A host is granted a session that has been closed already. It shows the session as running and sends a heartbeat
for it. -/
theorem heartbeat_after_closed_grant :
    let grant : Grant := ⟨⟨⟨"a"⟩⟩, ⟨⟨"s"⟩, .closed, []⟩⟩
    let base : Url := .wsHost
    let r := (begin .standard base).run [.start ⟨[.ok grant], 0⟩ ⟨.immediate, true⟩ .host, .pass 1000]
    r.client.lobby.session.map Session.state = some .closed ∧ r.client.lobby.lifecycle = .running ∧
      r.client.connections.voices.map Voice.texts =
        [[writeMessage (.heartbeat ⟨⟨"s"⟩, ⟨"a"⟩, 1100⟩)]] := by
  decide +kernel

end Register

end PaddleLink
