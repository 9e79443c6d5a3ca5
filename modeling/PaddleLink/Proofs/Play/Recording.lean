import PaddleLink.Proofs.Play.Frames

namespace PaddleLink

variable {σ τ : Type}

structure Stride where
  inputs : List Input
  seconds : Float

def Simulation.take (sim : Simulation σ) (scene : σ) (s : Stride) : σ :=
  sim.step scene s.inputs s.seconds

/-- A simulation that writes down how it is moved. -/
def Simulation.recorded (sim : Simulation σ) : Simulation (σ × List Stride) where
  step := fun (scene, strides) inputs seconds => (sim.step scene inputs seconds, strides ++ [⟨inputs, seconds⟩])
  objects := fun (scene, _) => sim.objects scene

namespace Play

def withScene (p : Play σ) (scene : τ) : Play τ where
  client := p.client
  scene := scene
  script := p.script
  frames := p.frames
  began := p.began
  last := p.last
  wasConnected := p.wasConnected
  records := p.records

def recorded (p : Play σ) : Play (σ × List Stride) :=
  p.withScene (p.scene, [])

def strides (p : Play σ) (sim : Simulation σ) (limit : Option Nat) (incidents : List (Nat × Incident)) :
    List Stride :=
  (p.recorded.run sim.recorded limit incidents).play.scene.2

variable (sim : Simulation σ)

def stride (p : Play σ) (now : Nat) : Stride where
  inputs := ((p.script.due (now - p.began)).foldl Client.replay p.client).pump.1.composer.current
  seconds := secondsOf (now - p.last)

structure Records (p : Play σ) (taken : List Stride) (o : Outcome σ) (r : Outcome (σ × List Stride))
    (strides : List Stride) : Prop where
  play : r.play = o.play.withScene (o.play.scene, taken ++ strides)
  ending : r.ending = o.ending
  time : r.time = o.time
  frames : p.frames + strides.length = o.play.frames
  scene : o.play.scene = strides.foldl sim.take p.scene

theorem runFrames_records (limit : Option Nat) (fuel : Nat) (p : Play σ) (taken : List Stride) (now : Nat)
    (incidents : List (Nat × Incident)) :
    ∃ strides, Records sim p taken (runFrames sim limit fuel p now incidents)
      (runFrames sim.recorded limit fuel (p.withScene (p.scene, taken)) now incidents) strides := by
  induction fuel generalizing p taken now incidents with
  | zero => exact ⟨[], by rw [List.append_nil]; rfl, rfl, rfl, rfl, rfl⟩
  | succ fuel ih =>
    -- neither the end of play nor what happens between frames depends on the scene, which grows by one move
    let q := p.frame sim now
    let r := p.withScene (p.scene, taken)
    have hframe : r.frame sim.recorded now = q.withScene (q.scene, taken ++ [p.stride now]) := rfl
    cases next sim limit p now incidents with
    | ends e ending =>
      have hending : (r.frame sim.recorded now).ending? limit = some e := ending
      rw [runFrames_of_ending ending, runFrames_of_ending hending]
      exact ⟨[p.stride now], rfl, rfl, rfl, rfl, rfl⟩
    | interrupted t ending span =>
      have hending : (r.frame sim.recorded now).ending? limit = none := ending
      have hspan : ((r.frame sim.recorded now).between now incidents).interrupted = some t := span
      rw [runFrames_of_interrupted ending span, runFrames_of_interrupted hending hspan]
      exact ⟨[p.stride now], rfl, rfl, rfl, rfl, rfl⟩
    | goes ending span =>
      have hending : (r.frame sim.recorded now).ending? limit = none := ending
      have hspan : ((r.frame sim.recorded now).between now incidents).interrupted = none := span
      rw [runFrames_of_going ending span, runFrames_of_going hending hspan, hframe]
      let q' := q.after (q.between now incidents)
      obtain ⟨strides, hrest⟩ := ih q' (taken ++ [p.stride now]) (now + q.client.settings.frameInterval)
        (q.between now incidents).rest
      refine ⟨p.stride now :: strides, ?_, hrest.ending, hrest.time, ?_, hrest.scene⟩
      · have hplay := hrest.play
        rw [List.append_assoc, List.singleton_append] at hplay
        exact hplay
      · have hframes : q'.frames = p.frames + 1 := rfl
        rw [← hrest.frames, hframes, List.length_cons]
        omega

/-- The moves that are written down are those of play: there is one in every frame, and they lead to its scene. -/
theorem run_records (p : Play σ) (limit : Option Nat) (incidents : List (Nat × Incident)) :
    Records sim p [] (p.run sim limit incidents) (p.recorded.run sim.recorded limit incidents)
      (p.strides sim limit incidents) := by
  obtain ⟨strides, h⟩ := runFrames_records sim limit (p.bound limit incidents) p [] p.began
    (incidents.mergeSort fun a b => a.1 ≤ b.1)
  have hsame : p.strides sim limit incidents = strides :=
    congrArg (fun r : Play (σ × List Stride) => r.scene.2) h.play
  rw [hsame]
  exact h

end Play

end PaddleLink
