import PaddleLink.Proofs.Transport.Whole

namespace PaddleLink.Connections

/-- What a connect can come to. The server may have seen a client that has given up. -/
inductive ConnectOutcome (c : Connections) (t : Target) (a : Attempt) : Prop where
  | alreadyOpen (result : a.result = .ok .alreadyOpen) (isOpen : c.isOpen)
    (target : c.held.map (fun k => k.link.target) = some t) (same : a.connections = c)
  | opened (k : Connection) (result : a.result = .ok .opened) (held : a.connections.held = some k)
    (target : k.link.target = t) (whole : k.link.Whole)
    (voices : a.connections.voices = c.voices ++ [⟨t, []⟩])
  | failed (e : TransportError) (result : a.result = .error e) (held : a.connections.held = none)
    (voices : a.connections.voices = c.voices ∨ a.connections.voices = c.voices ++ [⟨t, []⟩])

theorem voice_fresh (url : Url) (t : Target) (listens : Bool) (now : Nat) :
    (Connection.fresh url t listens now).link.voice = ⟨t, []⟩ := by
  unfold Connection.fresh
  split <;> rfl

theorem afterHandshake_outcome (c : Connections) (now : Nat) (listens : Bool) (url : Url) (t : Target)
    (h : Handshake) (hheld : c.held = none) {c₀ : Connections} (hvoices : c.voices = c₀.voices) :
    c₀.ConnectOutcome t (c.afterHandshake now listens url t h) := by
  let waited := if h.elapsed = 0 then c else c.settle now
  have hwaited : waited.held = none ∧ waited.voices = c₀.voices := by
    simp only [waited]
    split
    · exact ⟨hheld, hvoices⟩
    · exact ⟨by simp [settle, mapAll, hheld], (voices_settle c now).trans hvoices⟩
  have hpast : waited.past.map (fun k => k.link.voice) = c₀.voices := by
    rw [← hwaited.2, voices_eq, hwaited.1]
    simp
  let new := Connection.fresh url t listens (now + h.elapsed)
  have hnew : new.link.voice = ⟨t, []⟩ := voice_fresh url t listens _
  unfold afterHandshake
  simp only
  split
  · refine .opened new rfl rfl (congrArg Voice.target hnew) (Connection.whole_fresh _ _ _ _) ?_
    rw [voices_eq]
    change waited.past.map _ ++ [new.link.voice] = _
    rw [hpast, hnew]
  · rename_i e _
    have hgiven : new.abandon.link.voice = ⟨t, []⟩ := hnew
    split
    · refine .failed e rfl hwaited.1 (.inr ?_)
      rw [voices_eq]
      change (waited.past ++ [new.abandon]).map _ ++ (waited.held.map _).toList = _
      simp [hwaited.1, hpast, hgiven]
    · exact .failed e rfl hwaited.1 (.inl hwaited.2)

theorem connectOutcome (c : Connections) (now : Nat) (server : Server) (t : Target) :
    c.ConnectOutcome t (c.connect now server t) := by
  unfold connect
  split
  · rename_i h
    exact .alreadyOpen rfl h.1 h.2 rfl
  · simp only
    split
    · rename_i e _
      exact .failed e rfl rfl (.inl (voices_close c))
    · exact afterHandshake_outcome _ _ _ _ _ _ rfl (voices_close c)

end PaddleLink.Connections
