import PaddleLink.Play.Loop
import PaddleLink.Proofs.Client.Resources

namespace PaddleLink

namespace Client

variable {P : Client → Prop} {c : Client}

/-- What the passing of time and incidents keep is kept until the next frame. -/
theorem passThrough_keeps (hpass : ∀ c now until_, P c → P (Client.pass c now until_))
    (hmeet : ∀ c t i, P c → P ((Client.meet c t i).settle t)) (h : P c) (now until_ : Nat)
    (incidents : List (Nat × Incident)) : P (c.passThrough now until_ incidents).client := by
  induction incidents generalizing c now with
  | nil => exact hpass c now until_ h
  | cons incident rest ih =>
    obtain ⟨t, i⟩ := incident
    rw [passThrough]
    by_cases hlate : until_ < t
    · rw [if_pos hlate]
      exact hpass c now until_ h
    · rw [if_neg hlate]
      have hthen : P (c.pass now t) := hpass c now t h
      cases i with
      | interrupt => exact hthen
      | push text => exact ih (hmeet _ t (.push text) hthen) t
      | hangUp => exact ih (hmeet _ t .hangUp hthen) t
      | serverGone => exact ih (hmeet _ t .serverGone hthen) t
      | fail e => exact ih (hmeet _ t (.fail e) hthen) t

/-- Play is interrupted by an incident, and the others that have not come yet stay. -/
theorem passThrough_incidents (c : Client) (now until_ : Nat) (incidents : List (Nat × Incident)) :
    (c.passThrough now until_ incidents).rest ⊆ incidents ∧
      ∀ t, (c.passThrough now until_ incidents).interrupted = some t → (t, .interrupt) ∈ incidents := by
  induction incidents generalizing c now with
  | nil => exact ⟨List.Subset.refl _, nofun⟩
  | cons incident rest ih =>
    obtain ⟨t, i⟩ := incident
    have hlater : ∀ d : Client, (d.passThrough t until_ rest).rest ⊆ (t, i) :: rest ∧
        ∀ t', (d.passThrough t until_ rest).interrupted = some t' → (t', .interrupt) ∈ (t, i) :: rest := by
      intro d
      obtain ⟨hrest, hinterrupted⟩ := ih d t
      exact ⟨List.subset_cons_of_subset _ hrest, fun t' ht' => List.mem_cons_of_mem _ (hinterrupted t' ht')⟩
    rw [passThrough]
    by_cases hlate : until_ < t
    · rw [if_pos hlate]
      exact ⟨List.Subset.refl _, nofun⟩
    · rw [if_neg hlate]
      cases i with
      | interrupt =>
        refine ⟨List.subset_cons_self _ _, fun t' ht' => ?_⟩
        cases ht'
        exact List.mem_cons_self
      | push | hangUp | serverGone | fail => exact hlater _

theorem meet_eq_onConnection (c : Client) (now : Nat) (i : Incident) :
    c.meet now i = c ∨
      ∃ f : Connection → Connection, c.meet now i = c.onConnection (c.connections.all.length - 1) f ∧
        ∀ k, (f k).link.target = k.link.target ∧ (k.link.Whole → (f k).link.Whole) := by
  cases i with
  | interrupt => exact .inl rfl
  | push text =>
    refine .inr ⟨fun k => k.push now text, rfl, fun k => ⟨?_, fun hk => Connection.whole_push hk now text⟩⟩
    exact congrArg Voice.target (k.voice_push now text)
  | hangUp =>
    refine .inr ⟨fun k => k.hangUp now, rfl, fun k => ⟨?_, fun hk => Connection.whole_hangUp hk now⟩⟩
    exact congrArg Voice.target (k.voice_hangUp now)
  | serverGone =>
    refine .inr ⟨fun k => k.dropServer now, rfl, fun k => ⟨?_, fun hk => Connection.whole_dropServer hk now⟩⟩
    exact congrArg Voice.target (k.voice_dropServer now)
  | fail e =>
    refine .inr ⟨fun k => k.deliver now (.failure e), rfl, fun k => ⟨rfl, fun hk => ?_⟩⟩
    exact Connection.whole_deliver hk now nofun

end Client

namespace Play

variable {σ : Type}

def between (p : Play σ) (now : Nat) (incidents : List (Nat × Incident)) : Span :=
  p.client.passThrough now (now + (p.client.settings.frameInterval - 1)) incidents

def after (p : Play σ) (s : Span) : Play σ :=
  { p with client := s.client }

variable {sim : Simulation σ} {limit : Option Nat} {fuel : Nat} {p : Play σ} {now : Nat}
  {incidents : List (Nat × Incident)}

theorem runFrames_of_ending {e : Ending} (hending : (p.frame sim now).ending? limit = some e) :
    runFrames sim limit (fuel + 1) p now incidents = ⟨(p.frame sim now).finish e, some e, now⟩ := by
  rw [runFrames]
  simp only [hending]

theorem runFrames_of_interrupted {t : Nat} (hending : (p.frame sim now).ending? limit = none)
    (hspan : ((p.frame sim now).between now incidents).interrupted = some t) :
    runFrames sim limit (fuel + 1) p now incidents =
      ⟨((p.frame sim now).after ((p.frame sim now).between now incidents)).finish .interrupted, some .interrupted,
        t⟩ := by
  rw [between] at hspan
  rw [runFrames]
  simp only [hending, hspan]
  rfl

theorem runFrames_of_going (hending : (p.frame sim now).ending? limit = none)
    (hspan : ((p.frame sim now).between now incidents).interrupted = none) :
    runFrames sim limit (fuel + 1) p now incidents =
      runFrames sim limit fuel ((p.frame sim now).after ((p.frame sim now).between now incidents))
        (now + (p.frame sim now).client.settings.frameInterval) ((p.frame sim now).between now incidents).rest := by
  rw [between] at hspan
  rw [runFrames]
  simp only [hending, hspan]
  rfl

inductive Next (sim : Simulation σ) (limit : Option Nat) (p : Play σ) (now : Nat)
    (incidents : List (Nat × Incident)) : Prop where
  | ends (e : Ending) (ending : (p.frame sim now).ending? limit = some e)
  | interrupted (t : Nat) (ending : (p.frame sim now).ending? limit = none)
    (span : ((p.frame sim now).between now incidents).interrupted = some t)
  | goes (ending : (p.frame sim now).ending? limit = none)
    (span : ((p.frame sim now).between now incidents).interrupted = none)

theorem next (sim : Simulation σ) (limit : Option Nat) (p : Play σ) (now : Nat) (incidents : List (Nat × Incident)) :
    Next sim limit p now incidents := by
  cases hending : (p.frame sim now).ending? limit with
  | some e => exact .ends e hending
  | none =>
    cases hspan : ((p.frame sim now).between now incidents).interrupted with
    | some t => exact .interrupted t hending hspan
    | none => exact .goes hending hspan

/-- Without incidents play is made up of single frames, each of them with the time up to the next one. -/
theorem runFrames_frame_by_frame (sim : Simulation σ) (limit : Option Nat) (fuel : Nat) (p : Play σ) (now : Nat) :
    let o := runFrames sim limit 1 p now []
    runFrames sim limit (fuel + 1) p now [] =
      if o.ending.isSome then o else runFrames sim limit fuel o.play o.time [] := by
  intro o
  cases next sim limit p now [] with
  | ends e hending =>
    have ho : o = ⟨(p.frame sim now).finish e, some e, now⟩ := runFrames_of_ending hending
    rw [ho]
    exact runFrames_of_ending hending
  | interrupted t hending hspan => cases hspan
  | goes hending hspan =>
    have ho : o = ⟨(p.frame sim now).after ((p.frame sim now).between now []), none,
        now + (p.frame sim now).client.settings.frameInterval⟩ := runFrames_of_going hending hspan
    rw [ho]
    exact runFrames_of_going hending hspan

end Play

end PaddleLink
