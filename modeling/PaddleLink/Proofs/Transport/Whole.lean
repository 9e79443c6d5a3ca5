import PaddleLink.Proofs.Transport.Voice

namespace PaddleLink

namespace Link

/-- A channel that its client has not closed, on a socket that does not bring down the loop. -/
structure Whole (l : Link) : Prop where
  unasked : l.closeAsked = false
  heard : l.heard = true
  calm : Arrival.collapse ∉ l.socket.arrivals.map Prod.snd
  ending : l.phase = .running ∨ l.phase = .ended ∧ ∃ reason, Notice.closed reason ∈ l.notices

theorem whole_fresh (target : Target) (socket : Socket)
    (h : Arrival.collapse ∉ socket.arrivals.map Prod.snd) : (fresh target socket).Whole where
  unasked := rfl
  heard := rfl
  calm := h
  ending := .inl rfl

variable {l : Link}

theorem whole_send (h : l.Whole) (text : String) : (l.send text).Whole := by
  unfold send
  split
  · exact ⟨h.unasked, h.heard, h.calm, h.ending⟩
  · exact h

/-- What is told is added to what was told before. -/
theorem whole_tell (h : l.Whole) (n : Notice) : (l.tell n).Whole := by
  have htold : l.tell n = { l with notices := l.notices ++ [n] } := by rw [tell, if_pos h.heard]
  rw [htold]
  refine ⟨h.unasked, h.heard, h.calm, ?_⟩
  rcases h.ending with hrun | ⟨hended, reason, hmem⟩
  · exact .inl hrun
  · exact .inr ⟨hended, reason, List.mem_append_left _ hmem⟩

/-- A loop does not end by itself without telling. -/
theorem whole_lose (h : l.Whole) (reason : Option String) : (l.lose reason).Whole := by
  rw [Traffic.lose_eq l h.heard]
  exact ⟨h.unasked, h.heard, h.calm, .inr ⟨rfl, reason, by simp⟩⟩

theorem whole_accept (h : l.Whole) {a : Arrival} (ha : a ≠ .collapse) : (l.accept a).Whole := by
  cases a with
  | frame text =>
    simp only [accept, receive]
    split
    · exact h
    · exact whole_tell h _
    · exact h
  | failure e => exact whole_lose h _
  | hangUp => exact whole_lose h _
  | collapse => exact absurd rfl ha

theorem whole_turn (h : l.Whole) (now : Nat) : (l.turn now).Whole := by
  have hturn := l.turnOutcome now
  revert hturn
  generalize l.turn now = l', l.end? now = ending
  intro hturn
  have hgiven : ∀ (text : String) (outbox : List String),
      (recordCall { l with outbox := outbox } now (.send text)).Whole :=
    fun _ _ => ⟨h.unasked, h.heard, h.calm, h.ending⟩
  cases hturn with
  | rest => exact h
  | finish t hp =>
    rcases h.ending with hrun | ⟨hended, -⟩
    · rw [hp] at hrun
      cases hrun
    · rw [hp] at hended
      cases hended
  | close hp ha =>
    rw [h.unasked] at ha
    cases ha
  | send text outbox hp ha ho hf => exact hgiven text outbox
  | sendFailed text outbox e hp ha ho hf => exact whole_lose (hgiven text outbox) _
  | accept t a arrivals hp ha ho hi ht =>
    have hcalm : a ≠ .collapse ∧ Arrival.collapse ∉ arrivals.map Prod.snd := by
      have hall := h.calm
      rw [hi, List.map_cons, List.mem_cons, not_or] at hall
      exact ⟨fun he => hall.1 he.symm, hall.2⟩
    have hleft : ({ l with socket := { l.socket with arrivals := arrivals } } : Link).Whole :=
      ⟨h.unasked, h.heard, hcalm.2, h.ending⟩
    exact whole_accept hleft hcalm.1

/-- Nobody is told of the loss of a channel that runs, so an end that is not told of is none. -/
theorem Whole.isFinished_eq_false (h : l.Whole) (hquiet : ∀ reason, Notice.closed reason ∉ l.notices) :
    l.isFinished = false := by
  rcases h.ending with hrun | ⟨-, reason, hmem⟩
  · simp [isFinished, hrun]
  · exact absurd hmem (hquiet reason)

/-- Reading the notices loses nothing as long as none of them tells of the loss. -/
theorem Whole.clearNotices (h : l.Whole) (hquiet : ∀ reason, Notice.closed reason ∉ l.notices) :
    l.clearNotices.Whole := by
  refine ⟨h.unasked, h.heard, h.calm, ?_⟩
  rcases h.ending with hrun | ⟨-, reason, hmem⟩
  · exact .inl hrun
  · exact absurd hmem (hquiet reason)

end Link

namespace Connection

theorem whole_fresh (url : Url) (target : Target) (listens : Bool) (now : Nat) :
    (fresh url target listens now).link.Whole := by
  unfold fresh
  split
  · exact Link.whole_fresh target _ (by simp [Socket.fresh])
  · exact Link.whole_fresh target _ (by simp)

variable {k : Connection}

theorem whole_deliver (h : k.link.Whole) (now : Nat) {a : Arrival} (ha : a ≠ .collapse) :
    (k.deliver now a).link.Whole := by
  refine ⟨h.unasked, h.heard, ?_, h.ending⟩
  have hcalm := h.calm
  simp only [deliver, List.map_append, List.map_cons, List.map_nil, List.mem_append, List.mem_singleton, not_or]
  exact ⟨hcalm, fun he => ha he.symm⟩

theorem whole_push (h : k.link.Whole) (now : Nat) (text : String) : (k.push now text).link.Whole := by
  unfold push
  split
  · exact whole_deliver h now (by simp)
  · exact h

theorem whole_hangUp (h : k.link.Whole) (now : Nat) : (k.hangUp now).link.Whole := by
  unfold hangUp
  split
  · exact whole_deliver h now (by simp)
  · exact h

theorem whole_dropServer (h : k.link.Whole) (now : Nat) : (k.dropServer now).link.Whole := by
  have hk := whole_hangUp h now
  exact ⟨hk.unasked, hk.heard, hk.calm, hk.ending⟩

end Connection

end PaddleLink
