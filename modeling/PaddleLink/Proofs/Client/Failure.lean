import PaddleLink.Proofs.Client.Behind
import PaddleLink.Proofs.Client.Kept

/-!
Starts that fail. All that they leave is what went wrong, until the next start or reset; for the rest the
client goes on as if the start had not been tried, later by the time that it has taken.
-/

namespace PaddleLink

theorem Lobby.Begun.eq_of_idle {l : Lobby} (h : l.Begun) (hl : l.lifecycle = .uninitialized) (status : Status) :
    { l with status := status } = (⟨none, status, .uninitialized⟩ : Lobby) := by
  rw [h.mp hl, hl]

namespace Connections

variable {k : Connections}

theorem eq_of_unheld (k k' : Connections) (hbase : k'.base = k.base) (hpolicy : k'.policy = k.policy)
    (hheld : k.held = none) (hheld' : k'.held = none) : k' = { k with past := k'.past } := by
  obtain ⟨base, policy, past, held⟩ := k
  obtain ⟨base', policy', past', held'⟩ := k'
  cases hbase
  cases hpolicy
  cases hheld
  cases hheld'
  rfl

theorem length_voices_of_unheld (hheld : k.held = none) : k.voices.length = k.past.length := by
  rw [voices_eq, hheld]
  simp

/-- A channel that is not opened adds at most one connection that was given up. -/
theorem connect_of_error (hheld : k.held = none) {now : Nat} {server : Server} {t : Target} {e : TransportError}
    (h : (k.connect now server t).result = .error e) :
    ∃ past, k.past.length ≤ past.length ∧ (k.connect now server t).connections = { k with past := past } := by
  obtain ⟨hbase, hpolicy⟩ := connect_fixed k now server t
  cases k.connectOutcome now server t with
  | alreadyOpen result => rw [result] at h; cases h
  | opened k' result => rw [result] at h; cases h
  | failed e' result held voices =>
    refine ⟨(k.connect now server t).connections.past, ?_, eq_of_unheld _ _ hbase hpolicy hheld held⟩
    rw [← length_voices_of_unheld hheld, ← length_voices_of_unheld held]
    rcases voices with hsame | hmore
    · exact Nat.le_of_eq (congrArg List.length hsame).symm
    · rw [hmore, List.length_append]
      exact Nat.le_add_right _ _

end Connections

namespace Client

variable {c c' c'' : Client}

/-- Two states of a client between which only its lobby and its old connections may have changed. -/
def Idles (c c' : Client) : Prop :=
  ∃ lobby past, c.connections.past.length ≤ past.length ∧
    c' = { c with lobby := lobby, connections := { c.connections with past := past } }

theorem Idles.trans (h : c.Idles c') (h' : c'.Idles c'') : c.Idles c'' := by
  obtain ⟨lobby, past, hpast, rfl⟩ := h
  obtain ⟨lobby', past', hpast', rfl⟩ := h'
  exact ⟨lobby', past', Nat.le_trans hpast hpast', rfl⟩

theorem idles_perform (c : Client) (acts : List Act) : c.Idles (c.perform acts) :=
  ⟨c.lobby.after acts, c.connections.past, Nat.le_refl _, rfl⟩

theorem idles_settle (hheld : c.connections.held = none) (now : Nat) : c.Idles (c.settle now) := by
  have hsettled : (c.settle now).connections = { c.connections with past := (c.settle now).connections.past } := by
    apply Connections.eq_of_unheld c.connections (c.settle now).connections rfl rfl hheld
    rw [settle, Connections.settle, Connections.mapAll, hheld]
    rfl
  have hlength : (c.settle now).connections.past.length = c.connections.past.length := List.length_map _
  exact ⟨c.lobby, (c.settle now).connections.past, Nat.le_of_eq hlength.symm,
    congrArg (fun k => { c with connections := k }) hsettled⟩

theorem idles_passDuring (hheld : c.connections.held = none) (now : Nat) (acts : List Act) :
    c.Idles (c.passDuring now acts) := by
  unfold passDuring
  split
  · exact ⟨c.lobby, c.connections.past, Nat.le_refl _, rfl⟩
  · have hsettled := idles_settle hheld now
    rcases pass_cases c now (now + duration acts) with hrest | ⟨p, k, -, hk, -⟩
    · rw [hrest]
      exact hsettled
    · obtain ⟨lobby, past, -, hs⟩ := hsettled
      rw [hs] at hk
      rw [hheld] at hk
      cases hk

theorem openChannel_of_error (hheld : c.connections.held = none) {now : Nat} {server : Server} {n : NetworkSession}
    {e : SessionError} (h : (c.openChannel now server n).result = .error e) :
    c.Idles (c.openChannel now server n).client ∧
      (c.openChannel now server n).client.lobby = ⟨none, .failed e.message, .uninitialized⟩ ∧
      ∃ e', e = .transport e' := by
  unfold openChannel at h ⊢
  simp only at h ⊢
  cases hr : (c.connections.connect now server ⟨n.id, n.me.id, n.role⟩).result with
  | ok connected =>
    rw [hr] at h
    cases h
  | error e' =>
    rw [hr] at h
    cases h
    obtain ⟨past, hpast, hconnections⟩ := Connections.connect_of_error hheld hr
    rw [hconnections]
    exact ⟨⟨_, past, hpast, rfl⟩, rfl, e', rfl⟩

theorem start_of_busy (h : c.lobby.lifecycle ≠ .uninitialized) (now : Nat) (endpoint : Endpoint) (server : Server)
    (s : Start) : c.start now endpoint server s = ⟨.error (.busy c.lobby.lifecycle), [], c⟩ := by
  obtain ⟨course, houtcome, hstart⟩ := c.start_cases now endpoint server s
  rw [hstart]
  cases houtcome with
  | busy => rfl
  | solo acts hl => exact absurd hl h
  | granted acts r g hl => exact absurd hl h
  | failed acts r e hl => exact absurd hl h

/-- A start that fails without there being a session before shows what went wrong. -/
theorem start_failed (hc : c.Sound) (hidle : c.lobby.lifecycle = .uninitialized) {now : Nat} {endpoint : Endpoint}
    {server : Server} {s : Start} {e : SessionError} (h : (c.start now endpoint server s).result = .error e) :
    let c' := (c.start now endpoint server s).client
    c.Idles c' ∧ c'.lobby = ⟨none, .failed e.message, .uninitialized⟩ ∧
      ((∃ l, e = .busy l) → endpoint.answer = .error e) := by
  have hheld : c.connections.held = none := (hc.idle hidle).1
  obtain ⟨course, houtcome, hstart⟩ := c.start_cases now endpoint server s
  rw [hstart] at h ⊢
  have hwaited := (idles_passDuring hheld now course.acts).trans (idles_perform _ course.acts)
  cases houtcome with
  | busy hbusy => exact absurd hidle hbusy
  | solo acts hl hs after => cases h
  | failed acts r e' hl hr answer after =>
    cases h
    refine ⟨hwaited, ?_, fun _ => answer⟩
    change (c.passDuring now acts).lobby.after acts = _
    rw [(alike_passDuring c now acts).lobby, after, hc.begun.eq_of_idle hidle]
  | granted acts r g hl hr answer after =>
    have hunheld : ((c.passDuring now acts).perform acts).connections.held = none := by
      obtain ⟨lobby, past, -, hw⟩ := hwaited
      rw [hw]
      exact hheld
    obtain ⟨hidles, hlobby, e', he⟩ := openChannel_of_error hunheld h
    refine ⟨hwaited.trans hidles, hlobby, ?_⟩
    rintro ⟨l, hl⟩
    rw [he] at hl
    cases hl

/-- How far a client that has tried a start in vain is behind one that has not. -/
def lagAfterFailure (c c' : Client) (acts : List Act) : Lag where
  time := duration acts
  shared := c.connections.past.length
  omitted := c'.connections.past.length - c.connections.past.length
  ended := 0
  marks := 0

theorem trails_of_idles (hc : c.Sound) (hidle : c.lobby.lifecycle = .uninitialized) (h : c.Idles c') {status : Status}
    (hlobby : c'.lobby = { c.lobby with status := status }) (acts : List Act) :
    Trails (c.lagAfterFailure c' acts) (some status) c c' := by
  obtain ⟨hheld, hinbound, hpulse⟩ := hc.idle hidle
  obtain ⟨lobby, past, hpast, rfl⟩ := h
  have hold : c.connections.past.drop c.connections.past.length = [] := List.drop_length
  have hall : c.connections.past.length + (past.length - c.connections.past.length) = past.length :=
    Nat.add_sub_cancel' hpast
  refine ⟨rfl, hlobby, fun _ => hidle, ⟨rfl, rfl, Nat.le_refl _, Nat.le_of_eq hall, ?_, ?_⟩, ?_,
    Multiplexer.trails_refl _, rfl, rfl, rfl, ?_, ?_, rfl, rfl⟩
  · change List.Forall₂ _ (c.connections.past.drop c.connections.past.length)
      (past.drop (c.connections.past.length + (past.length - c.connections.past.length)))
    rw [hold, hall, List.drop_length]
    exact .nil
  · change Option.Rel _ c.connections.held c.connections.held
    rw [hheld]
    exact .none
  · change c.inbound = c.inbound.map _
    rw [hinbound]
    rfl
  · change c.pulse = c.pulse.map _
    rw [hpulse]
    rfl
  · intro hbeats
    rw [hpulse] at hbeats
    cases hbeats

end Client

namespace Timeline

/-- A start that fails has changed nothing but what is shown of the failure. While there is a session that is
nothing either: nobody has been asked and no time has passed. Otherwise the client goes on as if the start had not
been tried, later by the time it has taken, and shows what went wrong until the next start or reset. An endpoint
whose answer is that it is busy has failed like any other. -/
theorem failed_start_leaves_error (settings : Settings) (base : Url) (xs : List Happening) (endpoint : Endpoint)
    (server : Server) (s : Start) (e : SessionError) :
    let t := run ⟨.fresh settings base, 0⟩ xs
    let c := t.client
    let started := c.start t.now endpoint server s
    let t' := t.step (.start endpoint server s)
    let c' := t'.client
    started.result = .error e →
      c' = { c with
        lobby := { c.lobby with status := c'.lobby.status }
        connections := { c.connections with past := c'.connections.past } } ∧
      (c.lobby.lifecycle ≠ .uninitialized → e = .busy c.lobby.lifecycle ∧ started.acts = [] ∧ t' = t) ∧
      (c.lobby.lifecycle = .uninitialized →
        c'.lobby = ⟨none, .failed e.message, .uninitialized⟩ ∧
        ((∃ l, e = .busy l) → endpoint.answer = .error e) ∧
        let g := c.lagAfterFailure c' started.acts
        (∀ x : Happening, (x.behind g).ahead? g = some x) ∧
        ∀ ys,
          let r := t.run (ys.filterMap (Happening.ahead? g))
          let r' := t'.run ys
          r.Trails g (if ys.any Happening.clears then none else some (.failed e.message)) r' ∧
            ∀ y x, y.ahead? g = some x → r'.answer y = r.answer x) := by
  intro t c started t' c' hresult
  have hc : c.Sound := sound_run (Client.sound_fresh settings base) xs
  have hc' : c'.Sound := sound_step hc _
  by_cases hidle : c.lobby.lifecycle = .uninitialized
  · obtain ⟨hidles, hlobby, hanswer⟩ := Client.start_failed hc hidle hresult
    have hshown : c'.lobby = { c.lobby with status := .failed e.message } :=
      hlobby.trans (hc.begun.eq_of_idle hidle _).symm
    have htrails : t.Trails (c.lagAfterFailure c' started.acts) (some (.failed e.message)) t' :=
      ⟨Client.trails_of_idles hc hidle hidles hshown started.acts, rfl⟩
    refine ⟨?_, fun hbusy => absurd hidle hbusy, fun _ => ⟨hlobby, hanswer, Happening.ahead?_behind _, ?_⟩⟩
    · obtain ⟨lobby, past, -, hafter⟩ := hidles
      have hstatus : c'.lobby.status = .failed e.message := congrArg Lobby.status hlobby
      have hpast : c'.connections.past = past := congrArg (fun d => d.connections.past) hafter
      have hlobby' : lobby = { c.lobby with status := .failed e.message } :=
        (congrArg Client.lobby hafter).symm.trans hshown
      rw [hstatus, hpast, ← hlobby']
      exact hafter
    · intro ys r r'
      have hrun := htrails.run hc hc' ys
      exact ⟨hrun, fun y x hx => hrun.answer_eq (sound_run hc _) (sound_run hc' _) hx⟩
  · have hbusy : started = ⟨.error (.busy c.lobby.lifecycle), [], c⟩ := Client.start_of_busy hidle _ _ _ _
    have hsame : t' = t := by
      change (⟨started.client, t.now + duration started.acts⟩ : Timeline) = t
      rw [hbusy]
      rfl
    have hclient : c' = c := congrArg Timeline.client hsame
    rw [hbusy] at hresult
    refine ⟨by rw [hclient], fun _ => ⟨?_, ?_, hsame⟩, fun h => absurd h hidle⟩
    · cases hresult
      rfl
    · rw [hbusy]

/-- The server grants a session to a host and then refuses its channel. A later start, which succeeds, comes out as
it would have without that, 100 ms later. -/
theorem failed_start_leaves_error_of_refusal :
    let base : Url := .wsHost
    let endpoint : Endpoint := ⟨[.ok ⟨⟨⟨"a"⟩⟩, ⟨⟨"s"⟩, .pending, []⟩⟩], 0⟩
    let refusing : Server := ⟨.refused "full", true⟩
    let again : Happening := .start endpoint ⟨.immediate, true⟩ .host
    let t := run ⟨.fresh .standard base, 0⟩ [.subscribe .tick]
    let started := t.client.start t.now endpoint refusing .host
    let t' := t.step (.start endpoint refusing .host)
    let g := t.client.lagAfterFailure t'.client started.acts
    started.result = .error (.transport (.handshake "full")) ∧
      t'.client.lobby = ⟨none, .failed "handshake failed: full", .uninitialized⟩ ∧
      g.time = 100 ∧ (t.run [again]).Trails g none (t'.run [again]) ∧ t'.answer again = t.answer again := by
  intro base endpoint refusing again t started t' g
  have hresult : started.result = .error (.transport (.handshake "full")) := by decide +kernel
  have hidle : t.client.lobby.lifecycle = .uninitialized := by decide +kernel
  have htime : g.time = 100 := by decide +kernel
  obtain ⟨-, -, hlater⟩ :=
    failed_start_leaves_error .standard base [.subscribe .tick] endpoint refusing .host _ hresult
  obtain ⟨hlobby, -, -, hrun⟩ := hlater hidle
  exact ⟨hresult, hlobby, htime, (hrun [again]).1, (hrun []).2 again again rfl⟩

end Timeline

end PaddleLink
