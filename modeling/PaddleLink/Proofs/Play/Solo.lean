import PaddleLink.Game.Field
import PaddleLink.Proofs.Client.Packing
import PaddleLink.Proofs.Client.Trail
import PaddleLink.Proofs.Play.Limit
import PaddleLink.Proofs.Play.Script

/-!
Play alone by a key script. In every frame the simulation is moved with the inputs of the keys that are held after all
steps of the script up to the time of the frame.
-/

namespace PaddleLink

def Keyboard.replay (b : Keyboard) (steps : List KeyStep) : Keyboard :=
  steps.foldl (fun b s => b.after s.event) b

namespace Client

variable {c c' : Client} {settings : Settings} {keys : Keyboard}

structure Alone (settings : Settings) (keys : Keyboard) (c : Client) : Prop where
  session : c.lobby.session = some .solo
  lifecycle : c.lobby.lifecycle ≠ .closed
  inbound : c.inbound = none
  settings : c.settings = settings
  keyboard : c.keyboard = keys
  published : c.composer.current = compose (some .solo) keys .empty

theorem Alone.of_alike (h : c.Alone settings keys) (ha : c.Alike c') (hs : c'.settings = c.settings) :
    c'.Alone settings keys where
  session := ha.lobby ▸ h.session
  lifecycle := ha.lobby ▸ h.lifecycle
  inbound := ha.inbound.trans h.inbound
  settings := hs.trans h.settings
  keyboard := ha.keyboard.trans h.keyboard
  published := ha.composer ▸ h.published

theorem Alone.type (h : c.Alone settings keys) (e : KeyEvent) : (c.type e).Alone settings (keys.after e) := by
  unfold Client.type
  by_cases hchanged : c.keyboard.isChangedBy e = true
  · rw [if_pos hchanged]
    refine ⟨h.session, h.lifecycle, h.inbound, h.settings, congrArg (Keyboard.after · e) h.keyboard, ?_⟩
    calc (refresh { c with keyboard := c.keyboard.after e }).composer.current
      _ = compose c.lobby.session (c.keyboard.after e) c.composer.remote := refresh_published _
      _ = compose (some .solo) (keys.after e) c.composer.remote := by rw [h.session, h.keyboard]
      _ = compose (some .solo) (keys.after e) .empty := rfl
  · rw [if_neg hchanged]
    have hsame : keys.after e = keys := by
      rw [h.keyboard] at hchanged
      exact Keyboard.after_of_not_isChangedBy hchanged
    rw [hsame]
    exact h

theorem Alone.replay (h : c.Alone settings keys) (steps : List KeyStep) :
    (steps.foldl Client.replay c).Alone settings (keys.replay steps) := by
  induction steps generalizing c keys with
  | nil => exact h
  | cons s steps ih => exact ih (h.type s.event)

theorem Alone.passThrough (h : c.Alone settings keys) (now until_ : Nat) (incidents : List (Nat × Incident)) :
    (c.passThrough now until_ incidents).client.Alone settings keys := by
  apply passThrough_keeps (P := Alone settings keys)
  · intro d now until_ hd
    exact hd.of_alike (alike_pass d now until_) (kept_pass d now until_).settings
  · intro d t i hd
    rcases d.meet_eq_onConnection t i with hsame | ⟨f, hone, -⟩
    · rw [hsame]
      exact hd.of_alike (alike_settle d t) rfl
    · rw [hone]
      exact (hd.of_alike (alike_onConnection d _ f) rfl).of_alike (alike_settle _ t) rfl
  · exact h

theorem Alone.isOver (h : c.Alone settings keys) : c.isOver = false := by
  have hlifecycle : decide (c.lobby.lifecycle = .closed) = false := decide_eq_false h.lifecycle
  rw [Client.isOver, hlifecycle, h.session]
  rfl

end Client

/-- A client that is in a solo session is alone. -/
theorem Timeline.alone_run (settings : Settings) (base : Url) (xs : List Happening) :
    let c := (run ⟨.fresh settings base, 0⟩ xs).client
    c.lobby.session = some .solo → c.Alone settings c.keyboard := by
  intro c hsolo
  have hsound : c.Sound := sound_run (Client.sound_fresh settings base) xs
  have hconfigured := configured_run (t := ⟨.fresh settings base, 0⟩) (Client.sound_fresh settings base) xs
  have hnetwork : ∀ s, c.lobby.session ≠ some (.network s) := by
    intro s hs
    rw [hsolo] at hs
    cases hs
  refine ⟨hsolo, ?_, (hsound.offline hnetwork).2.1, hconfigured.settings, rfl, ?_⟩
  · intro hclosed
    obtain ⟨os, hfit⟩ := exists_fit_run settings base xs
    have hover : c.isOver = true := by rw [Client.isOver, hclosed]; rfl
    obtain ⟨s, hs, -⟩ := hfit.isOver hover
    exact hnetwork s hs
  · have hpublished : c.composer.current = compose c.lobby.session c.keyboard c.composer.remote := by
      obtain ⟨typed, heard, hup⟩ := exists_upToDate_run settings base xs
      exact hup.published
    rw [hpublished, hsolo]
    rfl

namespace Play

variable {σ : Type}

/-- What the simulation is moved with in frame `k` of solo play, with the keys held at each time. -/
def soloStride (held : Nat → Keyboard) (interval k : Nat) : Stride where
  inputs := compose (some .solo) (held (k * interval)) .empty
  seconds := secondsOf (if k = 0 then 0 else interval)

variable {settings : Settings} {keys : Keyboard} {script : Script} {k : Nat} {taken : List KeyStep}
  {p : Play (σ × List Stride)} {sim : Simulation σ}

/-- Recorded play before frame `k`, when some steps of its script have been replayed. -/
structure SoloAt (settings : Settings) (keys : Keyboard) (script : Script) (k : Nat) (taken : List KeyStep)
    (p : Play (σ × List Stride)) : Prop where
  client : p.client.Alone settings (keys.replay taken)
  pending : script.pending = taken ++ p.script.pending
  early : ∀ s ∈ taken, s.time ≤ k * settings.frameInterval
  frames : p.frames = k
  last : p.last = p.began + (k - 1) * settings.frameInterval
  strides : p.scene.2 =
    (List.range k).map (soloStride (fun time => keys.replay (script.due time)) settings.frameInterval)

/-- All that has fallen due is what was taken before and what is due now. -/
theorem SoloAt.due_eq (h : SoloAt settings keys script k taken p) :
    script.due (k * settings.frameInterval) = taken ++ p.script.due (k * settings.frameInterval) := by
  rw [Script.due, h.pending]
  apply List.takeWhile_append_of_pos
  intro s hs
  exact decide_eq_true (h.early s hs)

theorem SoloAt.pressed (h : SoloAt settings keys script k taken p) :
    ((p.script.due (k * settings.frameInterval)).foldl Client.replay p.client).Alone settings
      (keys.replay (script.due (k * settings.frameInterval))) := by
  have hreplayed := h.client.replay (p.script.due (k * settings.frameInterval))
  rw [h.due_eq, Keyboard.replay, List.foldl_append]
  exact hreplayed

theorem SoloAt.stride_eq (h : SoloAt settings keys script k taken p) :
    p.stride (p.began + k * settings.frameInterval) =
      soloStride (fun time => keys.replay (script.due time)) settings.frameInterval k := by
  have hpressed := h.pressed
  have helapsed : p.began + k * settings.frameInterval - p.began = k * settings.frameInterval :=
    Nat.add_sub_cancel_left _ _
  have hseconds : p.began + k * settings.frameInterval - p.last = if k = 0 then 0 else settings.frameInterval := by
    rw [h.last, Nat.add_sub_add_left]
    cases k with
    | zero => simp
    | succ k => rw [if_neg (Nat.succ_ne_zero k), Nat.add_sub_cancel, Nat.succ_mul, Nat.add_sub_cancel_left]
  rw [Play.stride, soloStride, helapsed, Client.pump_of_unheard hpressed.inbound, hpressed.published, hseconds]

theorem SoloAt.frame (h : SoloAt settings keys script k taken p) :
    SoloAt settings keys script (k + 1) (script.due (k * settings.frameInterval))
      (p.frame sim.recorded (p.began + k * settings.frameInterval)) := by
  let now := p.began + k * settings.frameInterval
  let q := p.frame sim.recorded now
  have helapsed : now - p.began = k * settings.frameInterval := Nat.add_sub_cancel_left _ _
  refine ⟨?_, ?_, ?_, ?_, rfl, ?_⟩
  · let pressed := (p.script.due (now - p.began)).foldl Client.replay p.client
    have hpressed : pressed.Alone settings (keys.replay (script.due (k * settings.frameInterval))) := by
      have hdue := h.pressed
      rw [← helapsed] at hdue ⊢
      exact hdue
    have hpumped : pressed.pump.1.Alone settings (keys.replay (script.due (k * settings.frameInterval))) := by
      rw [Client.pump_of_unheard hpressed.inbound]
      exact hpressed
    have hsent := hpumped.of_alike (Client.alike_sendSnapshot _ now (sim.recorded.objects q.scene))
      (Client.kept_sendSnapshot _ now (sim.recorded.objects q.scene)).settings
    exact hsent.of_alike (Client.alike_nextTick _) rfl
  · have hpending : q.script = p.script.rest (k * settings.frameInterval) := congrArg p.script.rest helapsed
    rw [hpending, h.due_eq, h.pending, List.append_assoc, Script.due, Script.rest, List.takeWhile_append_dropWhile]
  · intro s hs
    have hearly : s.time ≤ k * settings.frameInterval := by simpa using List.mem_takeWhile_imp hs
    exact Nat.le_trans hearly (Nat.mul_le_mul_right _ (Nat.le_succ k))
  · exact congrArg (· + 1) h.frames
  · have hrecord : q.scene.2 = p.scene.2 ++ [p.stride now] := rfl
    rw [hrecord, h.strides, h.stride_eq, List.range_succ, List.map_append]
    rfl

theorem SoloAt.after (h : SoloAt settings keys script k taken p) (now : Nat) (incidents : List (Nat × Incident)) :
    SoloAt settings keys script k taken (p.after (p.between now incidents)) :=
  { h with client := h.client.passThrough now _ incidents }

theorem SoloAt.ending?_eq (h : SoloAt settings keys script k taken p) (n : Nat) :
    p.ending? (some n) = if n ≤ k then some .limitReached else none := by
  rw [ending?, h.client.isOver, h.frames]
  simp

/-- Solo play goes on to the limit. -/
theorem SoloAt.runFrames (sim : Simulation σ) (h : SoloAt settings keys script k taken p) {fuel n : Nat}
    (hfuel : 0 < fuel) (hn : k + fuel = n) {incidents : List (Nat × Incident)}
    (hquiet : ∀ t, (t, Incident.interrupt) ∉ incidents) :
    let o := runFrames sim.recorded (some n) fuel p (p.began + k * settings.frameInterval) incidents
    o.ending = some .limitReached ∧ o.play.frames = n ∧ o.time = p.began + (n - 1) * settings.frameInterval ∧
      o.play.scene.2 =
        (List.range n).map (soloStride (fun time => keys.replay (script.due time)) settings.frameInterval) := by
  induction fuel generalizing k taken p incidents with
  | zero => cases hfuel
  | succ fuel ih =>
    let now := p.began + k * settings.frameInterval
    let q := p.frame sim.recorded now
    have hframe : SoloAt settings keys script (k + 1) (script.due (k * settings.frameInterval)) q := h.frame
    have hending := hframe.ending?_eq n
    obtain ⟨hrest, hinterrupt⟩ :=
      Client.passThrough_incidents q.client now (now + (q.client.settings.frameInterval - 1)) incidents
    cases next sim.recorded (some n) p now incidents with
    | ends e ending =>
      rw [ending] at hending
      have hlast : n = k + 1 := by
        by_contra hmore
        rw [if_neg (by omega)] at hending
        cases hending
      rw [if_pos (by omega)] at hending
      cases hending
      subst hlast
      rw [runFrames_of_ending ending]
      exact ⟨rfl, hframe.frames, rfl, hframe.strides⟩
    | interrupted t ending span => exact absurd (hinterrupt t span) (hquiet t)
    | goes ending span =>
      rw [ending] at hending
      have hmore : k + 1 < n := by
        by_contra hlast
        rw [if_pos (by omega)] at hending
        cases hending
      have hthen := hframe.after now incidents
      have htime : now + q.client.settings.frameInterval = p.began + (k + 1) * settings.frameInterval := by
        rw [hframe.client.settings, Nat.succ_mul, ← Nat.add_assoc]
      rw [runFrames_of_going ending span, htime]
      exact ih hthen (by omega) (by omega) fun t ht => hquiet t (hrest ht)

end Play

/-- Alone a client plays a script frame by frame: frame `k`, at `k` intervals from the start, moves the simulation with
the inputs of the keys that are held after all steps of the file up to that time, in the order of their times and those
of one time in the order of the file. Play has as many frames as the limit says. -/
theorem solo_play_is_exact {σ : Type} (settings : Settings) (base : Url) (xs : List Happening) (sim : Simulation σ)
    (scene : σ) (text : String) (script : Script) (n : Nat) (incidents : List (Nat × Incident)) :
    let t := Timeline.run ⟨.fresh settings base, 0⟩ xs
    let p := Play.start t.client scene script t.now
    let o := p.run sim (some n) incidents
    t.client.lobby.session = some .solo → 1 ≤ n → Script.ofText text = .ok script →
    (∀ i, (i, Incident.interrupt) ∉ incidents) →
    ∃ written steps, decodeScript.run text = .ok written ∧ written.mapM WrittenStep.step = .ok steps ∧
      p.strides sim (some n) incidents = (List.range n).map (Play.soloStride
        (fun time => t.client.keyboard.replay (stepsUpTo steps time)) settings.frameInterval) ∧
      o.play.scene = (p.strides sim (some n) incidents).foldl sim.take scene ∧
      o.ending = some .limitReached ∧ o.play.frames = n ∧ o.time = t.now + (n - 1) * settings.frameInterval := by
  intro t p o hsolo hn hscript hquiet
  obtain ⟨written, steps, hread, hsteps, rfl⟩ := ofText_eq_ok hscript
  have halone := Timeline.alone_run settings base xs hsolo
  have hstart : Play.SoloAt settings t.client.keyboard (.ofSteps steps) 0 [] p.recorded :=
    ⟨halone, rfl, nofun, rfl, by simp; rfl, rfl⟩
  have hmem : ∀ i, (i, Incident.interrupt) ∉ incidents.mergeSort fun a b => a.1 ≤ b.1 :=
    fun i hi => hquiet i (List.mem_mergeSort.mp hi)
  have hrun := hstart.runFrames sim hn (Nat.zero_add n) hmem
  have hsame : Play.runFrames sim.recorded (some n) n p.recorded (p.recorded.began + 0 * settings.frameInterval)
      (incidents.mergeSort fun a b => a.1 ≤ b.1) = p.recorded.run sim.recorded (some n) incidents := by
    rw [Nat.zero_mul, Nat.add_zero, Play.run, Play.bound, Nat.max_eq_left hn]
  rw [hsame] at hrun
  obtain ⟨hending, hframes, htime, hstrides⟩ := hrun
  have hrecords := Play.run_records sim p (some n) incidents
  refine ⟨written, steps, hread, hsteps, ?_, hrecords.scene, ?_, ?_, ?_⟩
  · have hdue : (Script.ofSteps steps).due = stepsUpTo steps := funext (due_ofSteps steps)
    rw [← hdue]
    exact hstrides
  · rw [← hrecords.ending]
    exact hending
  · rw [hrecords.play] at hframes
    exact hframes
  · rw [← hrecords.time]
    exact htime

/-- The file has the release of a key before its press, and there is a frame at the time of each of them. -/
theorem solo_play_is_exact_of_two_steps :
    let base : Url := .wsHost
    let t := Timeline.run ⟨.fresh .standard base, 0⟩ [.start ⟨[], 0⟩ ⟨.immediate, true⟩ .solo]
    let p := Play.start t.client Field.initial (.ofSteps [⟨16, .w, false⟩, ⟨0, .w, true⟩]) t.now
    (p.strides Field.simulation (some 2) []).map Stride.inputs = [[.paddle .up .one], []] ∧
      (p.run Field.simulation (some 2) []).play.frames = 2 := by
  let file : List WrittenStep := [⟨16, "w", false⟩, ⟨0, "KeyW", true⟩]
  have hfile : file.mapM WrittenStep.step = .ok [⟨16, .w, false⟩, ⟨0, .w, true⟩] := rfl
  obtain ⟨written, steps, hread, hsteps, hstrides, -, -, hframes, -⟩ := solo_play_is_exact .standard
    .wsHost [.start ⟨[], 0⟩ ⟨.immediate, true⟩ .solo] Field.simulation
    Field.initial _ _ 2 [] (by decide +kernel) (by decide) (ofText_scriptText (List.cons_ne_nil _ _) hfile) (by simp)
  have hwritten : written = file := Except.ok.inj (hread.symm.trans (run_scriptText file))
  rw [hwritten] at hsteps
  have horder : steps = [⟨16, .w, false⟩, ⟨0, .w, true⟩] := Except.ok.inj (hsteps.symm.trans hfile)
  refine ⟨?_, hframes⟩
  rw [hstrides, horder]
  decide +kernel

end PaddleLink
