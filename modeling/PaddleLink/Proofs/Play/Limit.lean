import PaddleLink.Proofs.Client.Closing
import PaddleLink.Proofs.Play.Recording

/-!
How long play goes on. The limit is looked at after each frame, so play ends when it is reached, but it has always had
one frame by then.
-/

namespace PaddleLink

namespace Client

variable {c c' : Client} {os : List Origin}

theorem tended_type (c : Client) (e : KeyEvent) : c.Tended (c.type e) := by
  unfold type
  split <;> exact tended_of_same rfl rfl rfl rfl rfl rfl id

theorem tended_refl (c : Client) : c.Tended c :=
  tended_of_same rfl rfl rfl rfl rfl rfl id

theorem tended_meet (c : Client) (now : Nat) (i : Incident) : c.Tended (c.meet now i) := by
  rcases c.meet_eq_onConnection now i with hsame | ⟨f, hone, hf⟩
  · rw [hsame]
    exact tended_refl c
  · rw [hone]
    exact tended_onConnection c _ hf

/-- A client that is fit for play: its parts fit together, and the end of its session stands as its origins say. -/
structure Fit (os : List Origin) (c : Client) : Prop where
  sound : c.Sound
  ending : c.Ending os

theorem Fit.of_tended (h : c.Fit os) (ht : c.Tended c') : c'.Fit os := by
  refine ⟨h.sound.of_tended ht, h.ending.of_same ht.lobby fun hp => ?_⟩
  have hnone := ht.pulse
  rw [hp] at hnone
  exact Option.not_isSome_iff_eq_none.mp (by rw [hnone]; decide)

theorem Fit.pump (h : c.Fit os) : c.pump.1.Fit os :=
  ⟨sound_pump h.sound, ending_pump h.sound.attentive h.ending⟩

theorem Fit.replay (h : c.Fit os) (steps : List KeyStep) : (steps.foldl Client.replay c).Fit os := by
  induction steps generalizing c with
  | nil => exact h
  | cons s steps ih => exact ih (h.of_tended (tended_type c s.event))

theorem Fit.passThrough (h : c.Fit os) (now until_ : Nat) (incidents : List (Nat × Incident)) :
    (c.passThrough now until_ incidents).client.Fit os := by
  apply passThrough_keeps (P := Fit os)
  · intro d now until_ hd
    exact hd.of_tended (tended_pass d now until_)
  · intro d t i hd
    exact (hd.of_tended (tended_meet d t i)).of_tended (tended_settle _ t)
  · exact h

/-- Play only ends with the session when the server has closed it. -/
theorem Fit.isOver (h : c.Fit os) (hover : c.isOver = true) : c.lobby.IsOver := by
  rcases Bool.or_eq_true_iff.mp hover with hlifecycle | hstate
  · have hclosed : c.lobby.lifecycle = .closed := of_decide_eq_true hlifecycle
    cases h.ending with
    | shown candid granted => exact candid.shows.mp hclosed
    | hidden o last granted ended lifecycle => exact ended
  · obtain ⟨s, hs, hclosed⟩ := Option.map_eq_some_iff.mp (of_decide_eq_true hstate)
    cases s with
    | solo => cases hclosed
    | network s => exact ⟨s, hs, hclosed⟩

end Client

theorem Register.timeline_run (r : Register) (xs : List Happening) : (r.run xs).timeline = r.timeline.run xs := by
  induction xs generalizing r with
  | nil => rfl
  | cons x xs ih => exact ih (r.step x)

/-- Every client that there can be is fit for play. -/
theorem Timeline.exists_fit_run (settings : Settings) (base : Url) (xs : List Happening) :
    ∃ os, ((run ⟨.fresh settings base, 0⟩ xs).client).Fit os := by
  refine ⟨((Register.begin settings base).run xs).origins, ?_, ?_⟩
  · exact sound_run (Client.sound_fresh settings base) xs
  · have h : ((Register.begin settings base).run xs).timeline.client.Ending _ := Register.ending_run settings base xs
    rw [Register.timeline_run] at h
    exact h

namespace Play

variable {σ : Type} {sim : Simulation σ} {p : Play σ} {os : List Origin} {m : Nat}

theorem fit_frame (h : p.client.Fit os) (now : Nat) : (p.frame sim now).client.Fit os := by
  have hpumped := (h.replay (p.script.due (now - p.began))).pump
  have hsent := hpumped.of_tended (Client.tended_sendSnapshot _ now (sim.objects (p.frame sim now).scene))
  exact hsent.of_tended (Client.tended_of_same rfl rfl rfl rfl rfl rfl fun _ => Nat.zero_le _)

theorem ending?_cases (p : Play σ) (m : Nat) :
    (p.ending? (some m) = some .sessionClosed ∧ p.client.isOver = true) ∨
      (p.ending? (some m) = some .limitReached ∧ m ≤ p.frames) ∨ (p.ending? (some m) = none ∧ p.frames < m) := by
  unfold ending?
  by_cases hover : p.client.isOver = true
  · rw [if_pos hover]
    exact .inl ⟨rfl, hover⟩
  · rw [if_neg hover]
    by_cases hm : m ≤ p.frames
    · rw [if_pos (by simpa using hm)]
      exact .inr (.inl ⟨rfl, hm⟩)
    · rw [if_neg (by simpa using hm)]
      exact .inr (.inr ⟨rfl, by omega⟩)

inductive Stops (m : Nat) (incidents : List (Nat × Incident)) (o : Outcome σ) : Prop where
  | limitReached (ending : o.ending = some .limitReached) (frames : m ≤ o.play.frames)
  | sessionClosed (ending : o.ending = some .sessionClosed) (closed : o.play.client.lobby.IsOver)
  | interrupted (ending : o.ending = some .interrupted) (incident : (o.time, .interrupt) ∈ incidents)

theorem Stops.of_subset {o : Outcome σ} {incidents incidents' : List (Nat × Incident)} (h : Stops m incidents o)
    (hsub : incidents ⊆ incidents') : Stops m incidents' o := by
  cases h with
  | limitReached ending frames => exact .limitReached ending frames
  | sessionClosed ending closed => exact .sessionClosed ending closed
  | interrupted ending incident => exact .interrupted ending (hsub incident)

/-- As long as there are frames left to the limit there is fuel for them. -/
theorem runFrames_stops (sim : Simulation σ) (h : p.client.Fit os) {fuel : Nat} (hfuel : 0 < fuel)
    (hleft : p.frames + fuel = max m 1) (now : Nat) (incidents : List (Nat × Incident)) :
    let o := runFrames sim (some m) fuel p now incidents
    p.frames < o.play.frames ∧ o.play.frames ≤ max m 1 ∧ Stops m incidents o := by
  induction fuel generalizing p now incidents with
  | zero => cases hfuel
  | succ fuel ih =>
    let q := p.frame sim now
    have hframes : q.frames = p.frames + 1 := rfl
    have hfit : q.client.Fit os := fit_frame h now
    obtain ⟨hrest, hinterrupt⟩ :=
      Client.passThrough_incidents q.client now (now + (q.client.settings.frameInterval - 1)) incidents
    have hcases := ending?_cases q m
    cases next sim (some m) p now incidents with
    | ends e ending =>
      rw [runFrames_of_ending ending]
      refine ⟨by change p.frames < q.frames; omega, by change q.frames ≤ _; omega, ?_⟩
      rcases hcases with ⟨hclosed, hover⟩ | ⟨hlimit, hm⟩ | ⟨hnone, -⟩
      · exact .sessionClosed (ending.symm.trans hclosed) (hfit.isOver hover)
      · exact .limitReached (ending.symm.trans hlimit) hm
      · rw [ending] at hnone
        cases hnone
    | interrupted t ending span =>
      rw [runFrames_of_interrupted ending span]
      refine ⟨by change p.frames < q.frames; omega, by change q.frames ≤ _; omega, ?_⟩
      exact .interrupted rfl (hinterrupt t span)
    | goes ending span =>
      rw [runFrames_of_going ending span]
      have hmore : q.frames < m := by
        rcases hcases with ⟨hclosed, -⟩ | ⟨hlimit, -⟩ | ⟨-, hmore⟩
        · rw [ending] at hclosed
          cases hclosed
        · rw [ending] at hlimit
          cases hlimit
        · exact hmore
      have hafter : (q.after (q.between now incidents)).client.Fit os := hfit.passThrough now _ incidents
      have hleft' : (q.after (q.between now incidents)).frames + fuel = max m 1 := by
        change q.frames + fuel = max m 1
        omega
      obtain ⟨hless, hmost, hstops⟩ := ih hafter (by omega) hleft' (now + q.client.settings.frameInterval)
        (q.between now incidents).rest
      refine ⟨Nat.lt_trans (by change p.frames < q.frames; omega) hless, hmost, hstops.of_subset hrest⟩

/-- Play with a limit comes to an end. It has as many frames as moves of the simulation, not more than the limit asks
for unless that is none, and fewer only when the session is over or the player interrupts. -/
theorem stops_at_limit (settings : Settings) (base : Url) (xs : List Happening) (sim : Simulation σ) (scene : σ)
    (script : Script) (m : Nat) (incidents : List (Nat × Incident)) :
    let t := Timeline.run ⟨.fresh settings base, 0⟩ xs
    let p := Play.start t.client scene script t.now
    let o := p.run sim (some m) incidents
    (p.strides sim (some m) incidents).length = o.play.frames ∧
    (p.strides sim (some m) incidents).foldl sim.take scene = o.play.scene ∧
    1 ≤ o.play.frames ∧ o.play.frames ≤ max m 1 ∧
    (o.ending = some .limitReached ∧ m ≤ o.play.frames ∨
      o.ending = some .sessionClosed ∧ o.play.client.lobby.IsOver ∨
      o.ending = some .interrupted ∧ (o.time, .interrupt) ∈ incidents) := by
  intro t p o
  obtain ⟨os, hfit⟩ := Timeline.exists_fit_run settings base xs
  have hrecords := run_records sim p (some m) incidents
  have hlength : (p.strides sim (some m) incidents).length = o.play.frames :=
    (Nat.zero_add _).symm.trans hrecords.frames
  have hfuel : 0 < p.bound (some m) incidents := Nat.lt_of_lt_of_le Nat.zero_lt_one (Nat.le_max_right m 1)
  obtain ⟨hfirst, hmost, hstops⟩ := runFrames_stops (p := p) (m := m) sim hfit hfuel (Nat.zero_add _) p.began
    (incidents.mergeSort fun a b => a.1 ≤ b.1)
  refine ⟨hlength, hrecords.scene.symm, hfirst, hmost, ?_⟩
  have hmem : (incidents.mergeSort fun a b => a.1 ≤ b.1) ⊆ incidents := fun i hi => List.mem_mergeSort.mp hi
  cases hstops.of_subset hmem with
  | limitReached ending frames => exact .inl ⟨ending, frames⟩
  | sessionClosed ending closed => exact .inr (.inl ⟨ending, closed⟩)
  | interrupted ending incident => exact .inr (.inr ⟨ending, incident⟩)

/-- With a limit of no frames there is a frame. -/
theorem frame_beyond_limit :
    ¬∀ (settings : Settings) (base : Url) (xs : List Happening) (script : Script) (m : Nat)
      (incidents : List (Nat × Incident)),
      let t := Timeline.run ⟨.fresh settings base, 0⟩ xs
      let sim : Simulation Unit := ⟨fun _ _ _ => (), fun _ => []⟩
      ((Play.start t.client () script t.now).run sim (some m) incidents).play.frames ≤ m := by
  intro h
  have hzero := h .standard .wsHost [] ⟨[]⟩ 0 []
  have hone : ((Play.start (Client.fresh .standard .wsHost) () ⟨[]⟩ 0).run
      ⟨fun _ _ _ => (), fun _ => []⟩ (some 0) []).play.frames = 1 := by
    decide +kernel
  have hfew : 1 ≤ 0 := Nat.le_trans (Nat.le_of_eq hone.symm) hzero
  exact absurd hfew (by decide)

end Play

end PaddleLink
