import PaddleLink.Paddles

namespace PaddleLink

def lastInputs (heard : List InputEvent) (player : ActorId) : List Input :=
  match (heard.filter fun e => e.player = player).getLast? with
  | some e => e.inputs
  | none => []

def lastInputs? (heard : List InputEvent) (player : ActorId) : Option (List Input) :=
  (heard.filter fun e => e.player = player).getLast?.map InputEvent.inputs

theorem lastInputs_eq (heard : List InputEvent) (player : ActorId) :
    lastInputs heard player = (lastInputs? heard player).getD [] := by
  unfold lastInputs lastInputs?
  cases (heard.filter fun e => e.player = player).getLast? <;> rfl

theorem lastInputs?_append_singleton (heard : List InputEvent) (e : InputEvent) (player : ActorId) :
    lastInputs? (heard ++ [e]) player = if e.player = player then some e.inputs else lastInputs? heard player := by
  unfold lastInputs?
  by_cases h : e.player = player
  · simp [h]
  · simp [h]

theorem lastInputs_append_singleton (heard : List InputEvent) (e : InputEvent) (player : ActorId) :
    lastInputs (heard ++ [e]) player = if e.player = player then e.inputs else lastInputs heard player := by
  rw [lastInputs_eq, lastInputs?_append_singleton, lastInputs_eq]
  split <;> rfl

namespace RemoteInputs

theorem lookup_filter_ne (l : List (ActorId × List Input)) {a b : ActorId} (h : b ≠ a) :
    (l.filter fun p => p.1 != a).lookup b = l.lookup b := by
  induction l with
  | nil => rfl
  | cons p l ih =>
    obtain ⟨k, inputs⟩ := p
    by_cases hk : k = a
    · have hb : (b == k) = false := by simpa [hk] using h
      simp [hk, ih, List.lookup_cons, hk ▸ hb]
    · have hkeep : ((k, inputs).1 != a) = true := by simpa using hk
      rw [List.filter_cons, if_pos hkeep, List.lookup_cons, List.lookup_cons, ih]

/-- An event sets the inputs of its player, unless this client has sent it. -/
theorem lookup_apply (r : RemoteInputs) (me : Option ActorId) (e : InputEvent) (player : ActorId) :
    (r.apply me e).latest.lookup player =
      if e.player = player ∧ me ≠ some player then some e.inputs else r.latest.lookup player := by
  unfold apply
  by_cases hch : r.changedBy me e
  · rw [if_pos hch]
    have hme : me ≠ some e.player := by
      have := (Bool.and_eq_true_iff.mp hch).1
      simpa using this
    by_cases hp : e.player = player
    · subst hp
      simp [hme]
    · have hb : (player == e.player) = false := by simpa using fun h : player = e.player => hp h.symm
      simp only [List.lookup_cons, hb, hp, false_and, if_false]
      exact lookup_filter_ne _ fun h => hp h.symm
  · rw [if_neg hch]
    by_cases hp : e.player = player ∧ me ≠ some player
    · obtain ⟨rfl, hme⟩ := hp
      rw [if_pos ⟨rfl, hme⟩]
      simpa [changedBy, hme] using hch
    · rw [if_neg hp]

theorem inputsOf_apply (r : RemoteInputs) (me : Option ActorId) (e : InputEvent) (player : ActorId) :
    (r.apply me e).inputsOf player =
      if e.player = player ∧ me ≠ some player then e.inputs else r.inputsOf player := by
  rw [inputsOf, lookup_apply, inputsOf]
  split <;> rfl

/-- An event that tells nothing new changes nothing. -/
theorem apply_of_not_changedBy {r : RemoteInputs} {me : Option ActorId} {e : InputEvent}
    (h : r.changedBy me e = false) : r.apply me e = r := by
  simp [apply, h]

theorem applyAll_of_not_changedByAny {r : RemoteInputs} {me : Option ActorId} {es : List InputEvent}
    (h : r.changedByAny me es = false) : r.applyAll me es = r := by
  induction es with
  | nil => rfl
  | cons e es ih =>
    have hs : r.changedBy me e = false ∧ (r.apply me e).changedByAny me es = false := by
      simpa [changedByAny] using h
    have hr : r.apply me e = r := apply_of_not_changedBy hs.1
    rw [applyAll, List.foldl_cons, hr]
    rw [hr] at hs
    exact ih hs.2

/-- The table holds, for every player but this client itself, what was heard last. -/
theorem inputsOf_applyAll (r : RemoteInputs) (me : ActorId) (heard es : List InputEvent)
    (h : ∀ player, r.inputsOf player = if player = me then [] else lastInputs heard player)
    (player : ActorId) :
    (r.applyAll (some me) es).inputsOf player =
      if player = me then [] else lastInputs (heard ++ es) player := by
  -- the events heard so far grow as those still to come get fewer
  induction es generalizing r heard with
  | nil => simpa [applyAll] using h player
  | cons e es ih =>
    have hstep : ∀ p, (r.apply (some me) e).inputsOf p =
        if p = me then [] else lastInputs (heard ++ [e]) p := by
      intro p
      rw [inputsOf_apply, h p, lastInputs_append_singleton]
      by_cases hp : p = me
      · subst hp
        simp
      · have hme : me ≠ p := fun he => hp he.symm
        simp [hp, hme]
    have := ih (r.apply (some me) e) (heard ++ [e]) hstep
    simpa [applyAll] using this

end RemoteInputs

end PaddleLink
