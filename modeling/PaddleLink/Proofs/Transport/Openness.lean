import PaddleLink.Proofs.Transport.Voice

namespace PaddleLink.Link

variable {l : Link}

theorem isOpen_iff : l.isOpen = true ↔ l.closeAsked = false ∧ l.phase = .running := by
  simp [isOpen]

theorem isOpen_of_turn {now : Nat} (h : (l.turn now).isOpen = true) : l.isOpen = true := by
  have hturn := l.turnOutcome now
  revert hturn h
  generalize l.turn now = l', l.end? now = ending
  intro h hturn
  obtain ⟨hasked, hrunning⟩ := isOpen_iff.mp h
  cases hturn with
  | rest => exact h
  | finish t hp => cases hrunning
  | close hp ha =>
    have hboth : true = false := ha.symm.trans hasked
    cases hboth
  | send text outbox hp ha => exact isOpen_iff.mpr ⟨ha, hp⟩
  | sendFailed text outbox e hp ha => exact isOpen_iff.mpr ⟨ha, hp⟩
  | accept t a arrivals hp ha => exact isOpen_iff.mpr ⟨ha, hp⟩

theorem isOpen_of_settle {now : Nat} (h : (l.settle now).isOpen = true) : l.isOpen = true :=
  settle_keeps (P := fun l' => l'.isOpen = true → l.isOpen = true) (fun _ _ hkept hturn => hkept (isOpen_of_turn hturn))
    now id h

theorem isOpen_of_pass {now until_ : Nat} (h : (l.pass now until_).isOpen = true) : l.isOpen = true :=
  pass_keeps (P := fun l' => l'.isOpen = true → l.isOpen = true) (fun _ _ hkept hturn => hkept (isOpen_of_turn hturn))
    now until_ id h

theorem not_isOpen_turn (h : l.isOpen = false) (now : Nat) : (l.turn now).isOpen = false := by
  cases ht : (l.turn now).isOpen with
  | false => rfl
  | true => exact absurd (isOpen_of_turn ht) (by rw [h]; exact Bool.false_ne_true)

theorem isOpen_close (l : Link) : l.close.isOpen = false := by
  simp [close, isOpen]

theorem isOpen_lose (l : Link) (reason : Option String) : (l.lose reason).isOpen = false := by
  simp [lose, isOpen]

/-- A turn that ends the loop, be it for the client or by the other side, leaves a channel that is not open. -/
theorem isOpen_turn_of_end? {now : Nat} {ending : LinkEnd} (h : l.end? now = some ending) :
    (l.turn now).isOpen = false := by
  have hturn := l.turnOutcome now
  revert hturn h
  generalize l.turn now = l', l.end? now = reason
  intro h hturn
  cases hturn with
  | rest | finish | send => cases h
  | close hp ha =>
    have hasked : (l.recordCall now .close).closeAsked = true := ha
    simp [isOpen, hasked]
  | sendFailed => exact isOpen_lose _ _
  | accept t a =>
    cases a with
    | frame | collapse => cases h
    | failure e => exact isOpen_lose _ _
    | hangUp => exact isOpen_lose _ _

def sends (l : Link) : List (Nat × String) :=
  l.socket.calls.filterMap fun
    | (t, .send text) => some (t, text)
    | (_, .close) => none

theorem sends_lose (l : Link) (reason : Option String) : (l.lose reason).sends = l.sends := by
  unfold lose tell
  split <;> rfl

theorem outbox_lose (l : Link) (reason : Option String) : (l.lose reason).outbox = l.outbox := by
  unfold lose tell
  split <;> rfl

/-- A channel that is open, on a socket that takes every text and brings nothing. -/
structure Clear (l : Link) : Prop where
  isOpen : l.isOpen = true
  fault : l.socket.sendFault = none
  arrivals : l.socket.arrivals = []

theorem clear_fresh (target : Target) : (fresh target .fresh).Clear :=
  ⟨rfl, rfl, rfl⟩

theorem Clear.step?_of_text (h : l.Clear) {text : String} {outbox : List String} (ho : l.outbox = text :: outbox)
    (now : Nat) : l.step? now = some (recordCall { l with outbox := outbox } now (.send text)) := by
  obtain ⟨hasked, hrunning⟩ := isOpen_iff.mp h.isOpen
  simp [step?, hrunning, hasked, ho, transmit, recordCall, h.fault]

theorem Clear.step?_of_rest (h : l.Clear) (ho : l.outbox = []) (now : Nat) : l.step? now = none := by
  obtain ⟨hasked, hrunning⟩ := isOpen_iff.mp h.isOpen
  simp [step?, hrunning, hasked, ho, h.arrivals]

/-- What is queued on a clear channel is sent at once. -/
theorem Clear.settle (h : l.Clear) (now : Nat) :
    (l.settle now).Clear ∧ (l.settle now).outbox = [] ∧
      (l.settle now).sends = l.sends ++ l.outbox.map fun text => (now, text) := by
  generalize hout : l.outbox = out
  induction out generalizing l with
  | nil =>
    rw [settle_eq, h.step?_of_rest hout]
    exact ⟨h, hout, (List.append_nil _).symm⟩
  | cons text out ih =>
    rw [settle_eq, h.step?_of_text hout]
    have hnext : (recordCall { l with outbox := out } now (.send text)).Clear := ⟨h.isOpen, h.fault, h.arrivals⟩
    have hsends : (recordCall { l with outbox := out } now (.send text)).sends = l.sends ++ [(now, text)] := by
      simp [sends, recordCall]
    obtain ⟨hclear, hempty, hsent⟩ := ih hnext rfl
    refine ⟨hclear, hempty, ?_⟩
    rw [hsent, hsends, List.append_assoc]
    rfl

/-- Nothing comes in on a clear channel, so its loop is not woken. -/
theorem Clear.pass_eq (h : l.Clear) (now until_ : Nat) : l.pass now until_ = l.settle now := by
  have hclear := (h.settle now).1
  rw [Link.pass]
  generalize (l.settle now).work = fuel
  cases fuel with
  | zero => rfl
  | succ fuel => simp [passUpTo, wakesAt, (isOpen_iff.mp hclear.isOpen).2, hclear.arrivals]

structure Shut (l : Link) : Prop where
  isOpen : l.isOpen = false
  outbox : l.outbox = []

theorem shut_turn (h : l.Shut) (now : Nat) : (l.turn now).Shut ∧ (l.turn now).sends = l.sends := by
  suffices hkept : (l.turn now).outbox = [] ∧ (l.turn now).sends = l.sends from
    ⟨⟨not_isOpen_turn h.isOpen now, hkept.1⟩, hkept.2⟩
  have hturn := l.turnOutcome now
  revert hturn
  generalize l.turn now = l', l.end? now = ending
  intro hturn
  have hnotOpen (hp : l.phase = .running) (ha : l.closeAsked = false) : False := by
    have hopen := isOpen_iff.mpr ⟨ha, hp⟩
    rw [h.isOpen] at hopen
    cases hopen
  cases hturn with
  | rest => exact ⟨h.outbox, rfl⟩
  | finish t hp => exact ⟨h.outbox, rfl⟩
  | close hp ha => exact ⟨h.outbox, by simp [sends, recordCall]⟩
  | send text outbox hp ha => exact (hnotOpen hp ha).elim
  | sendFailed text outbox e hp ha => exact (hnotOpen hp ha).elim
  | accept t a arrivals hp ha => exact (hnotOpen hp ha).elim

/-- Between two states of a channel with nothing to send, nothing is sent, and it does not close by itself. -/
structure Rests (l l' : Link) : Prop where
  outbox : l'.outbox = []
  sends : l'.sends = l.sends
  clear : l.Clear → l'.Clear
  shut : l.isOpen = false → l'.isOpen = false

theorem Clear.rests (h : l.Clear) {l' : Link} (hclear : l'.Clear) (hout : l'.outbox = []) (hsends : l'.sends = l.sends) :
    l.Rests l' := by
  refine ⟨hout, hsends, fun _ => hclear, fun hshut => ?_⟩
  rw [h.isOpen] at hshut
  cases hshut

theorem Shut.rests (h : l.Shut) {l' : Link} (hshut : l'.Shut) (hsends : l'.sends = l.sends) : l.Rests l' := by
  refine ⟨hshut.outbox, hsends, fun hclear => ?_, fun _ => hshut.isOpen⟩
  have hopen := hclear.isOpen
  rw [h.isOpen] at hopen
  cases hopen

theorem rests_settle (h : l.Clear ∨ l.isOpen = false) (hout : l.outbox = []) (now : Nat) : l.Rests (l.settle now) := by
  rcases h with hclear | hshut
  · obtain ⟨hsettled, hempty, hsent⟩ := hclear.settle now
    rw [hout] at hsent
    exact hclear.rests hsettled hempty (hsent.trans (List.append_nil _))
  · have hl : l.Shut := ⟨hshut, hout⟩
    obtain ⟨hsettled, hsent⟩ := settle_keeps (P := fun l' => l'.Shut ∧ l'.sends = l.sends)
      (fun l' now h => ⟨(shut_turn h.1 now).1, (shut_turn h.1 now).2.trans h.2⟩) now ⟨hl, rfl⟩
    exact hl.rests hsettled hsent

theorem rests_pass (h : l.Clear ∨ l.isOpen = false) (hout : l.outbox = []) (now until_ : Nat) :
    l.Rests (l.pass now until_) := by
  rcases h with hclear | hshut
  · rw [hclear.pass_eq]
    exact rests_settle (.inl hclear) hout now
  · have hl : l.Shut := ⟨hshut, hout⟩
    obtain ⟨hpassed, hsent⟩ := pass_keeps (P := fun l' => l'.Shut ∧ l'.sends = l.sends)
      (fun l' now h => ⟨(shut_turn h.1 now).1, (shut_turn h.1 now).2.trans h.2⟩) now until_ ⟨hl, rfl⟩
    exact hl.rests hpassed hsent

end PaddleLink.Link

namespace PaddleLink

namespace Connection

variable {k : Connection} {now : Nat}

theorem isOpen_push {text : String} : (k.push now text).link.isOpen = true → k.link.isOpen = true := by
  unfold push
  split <;> exact id

theorem isOpen_hangUp : (k.hangUp now).link.isOpen = true → k.link.isOpen = true := by
  unfold hangUp
  split <;> exact id

end Connection

namespace Connections

variable {c : Connections}

theorem held_of_isOpen (h : c.isOpen = true) : ∃ k, c.held = some k ∧ k.link.isOpen = true := by
  unfold isOpen at h
  split at h
  · rename_i k hk
    exact ⟨k, hk, h⟩
  · cases h

theorem isOpen_fresh (url : Url) (t : Target) (listens : Bool) (now : Nat) :
    (Connection.fresh url t listens now).link.isOpen = true := by
  unfold Connection.fresh
  split <;> rfl

end Connections

end PaddleLink
