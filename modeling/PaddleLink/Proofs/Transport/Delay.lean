import Mathlib.Data.List.Forall2
import Mathlib.Data.Option.Basic
import PaddleLink.Proofs.Transport.Voice

namespace PaddleLink

variable {d : Nat}

def Message.later (d : Nat) : Message → Message
  | .snapshot s => .snapshot { s with time := s.time + UInt64.ofNat d }
  | .heartbeat h => .heartbeat { h with time := h.time + UInt64.ofNat d }

def Phase.later (d : Nat) : Phase → Phase
  | .running => .running
  | .closing t => .closing (t + d)
  | .ended => .ended

def IsRetimed (d : Nat) (a b : String) : Prop :=
  ∃ m : Message, a = writeMessage m ∧ b = writeMessage (m.later d)

inductive SocketCall.Later (d : Nat) : Nat × SocketCall → Nat × SocketCall → Prop
  | send {a b : String} (now : Nat) (h : IsRetimed d a b) : Later d (now, .send a) (now + d, .send b)
  | close (now : Nat) : Later d (now, .close) (now + d, .close)

structure Link.Later (d : Nat) (l l' : Link) : Prop where
  target : l'.target = l.target
  arrivals : l'.socket.arrivals = l.socket.arrivals.map fun p => (p.1 + d, p.2)
  sendFault : l'.socket.sendFault = l.socket.sendFault
  closeDelay : l'.socket.closeDelay = l.socket.closeDelay
  calls : List.Forall₂ (SocketCall.Later d) l.socket.calls l'.socket.calls
  outbox : List.Forall₂ (IsRetimed d) l.outbox l'.outbox
  closeAsked : l'.closeAsked = l.closeAsked
  phase : l'.phase = l.phase.later d
  notices : l'.notices = l.notices
  heard : l'.heard = l.heard

@[simp] theorem Phase.later_eq_running {p : Phase} : p.later d = .running ↔ p = .running := by
  cases p <;> simp [later]

theorem rel_concat {α β : Type} {R : α → β → Prop} {as : List α} {bs : List β} {a : α} {b : β}
    (h : List.Forall₂ R as bs) (hab : R a b) : List.Forall₂ R (as ++ [a]) (bs ++ [b]) :=
  List.rel_append h (.cons hab .nil)

namespace Link

variable {l l' : Link}

theorem Later.isOpen (h : l.Later d l') : l'.isOpen = l.isOpen := by
  simp [Link.isOpen, h.closeAsked, h.phase]

theorem Later.send (h : l.Later d l') {a b : String} (hab : IsRetimed d a b) : (l.send a).Later d (l'.send b) := by
  unfold Link.send
  rw [h.isOpen]
  split
  · exact { h with outbox := rel_concat h.outbox hab }
  · exact h

theorem Later.close (h : l.Later d l') : l.close.Later d l'.close :=
  { h with closeAsked := rfl }

theorem Later.clearNotices (h : l.Later d l') : l.clearNotices.Later d l'.clearNotices :=
  { h with notices := rfl }

theorem Later.tell (h : l.Later d l') (n : Notice) : (l.tell n).Later d (l'.tell n) := by
  unfold Link.tell
  rw [h.heard]
  split
  · exact { h with notices := congrArg (· ++ [n]) h.notices, heard := rfl }
  · exact h

theorem Later.lose (h : l.Later d l') (reason : Option String) : (l.lose reason).Later d (l'.lose reason) :=
  { h.tell (.closed reason) with phase := rfl }

theorem Later.accept (h : l.Later d l') (a : Arrival) : (l.accept a).Later d (l'.accept a) := by
  cases a with
  | frame text =>
    simp only [Link.accept, receive]
    split
    · exact h
    · exact h.tell _
    · exact h
  | failure e => exact h.lose _
  | hangUp => exact h.lose _
  | collapse => exact { h with phase := rfl }

theorem Later.transmit (h : l.Later d l') (now : Nat) {a b : String} (hab : IsRetimed d a b) :
    (l.transmit now a).Later d (l'.transmit (now + d) b) := by
  have hcalled : (l.recordCall now (.send a)).Later d (l'.recordCall (now + d) (.send b)) :=
    { h with calls := rel_concat h.calls (.send now hab) }
  unfold Link.transmit
  simp only [hcalled.sendFault]
  split
  · exact hcalled
  · exact hcalled.lose _

theorem Later.closingPhase (h : l.Later d l') (now : Nat) :
    l'.closingPhase (now + d) = (l.closingPhase now).later d := by
  unfold Link.closingPhase
  rw [h.closeDelay]
  split
  · rfl
  · rw [Phase.later, Nat.add_right_comm]

theorem step?_of_asked (hp : l.phase = .running) (ha : l.closeAsked = true) (now : Nat) :
    l.step? now = some { l.recordCall now .close with phase := l.closingPhase now } := by
  simp [step?, hp, ha]

theorem step?_of_text {text : String} {outbox : List String} (hp : l.phase = .running) (ha : l.closeAsked = false)
    (ho : l.outbox = text :: outbox) (now : Nat) :
    l.step? now = some (transmit { l with outbox := outbox } now text) := by
  simp [step?, hp, ha, ho]

theorem step?_of_silence (hp : l.phase = .running) (ha : l.closeAsked = false) (ho : l.outbox = []) (now : Nat) :
    l.step? now = match l.socket.arrivals with
      | (t, a) :: arrivals =>
        if t ≤ now then some (accept { l with socket := { l.socket with arrivals := arrivals } } a) else none
      | [] => none := by
  simp only [step?, hp, ha, ho]
  cases l.socket.arrivals <;> rfl

theorem Later.step? (h : l.Later d l') (now : Nat) :
    Option.Rel (Link.Later d) (l.step? now) (l'.step? (now + d)) := by
  have hdue (t : Nat) : t + d ≤ now + d ↔ t ≤ now := Nat.add_le_add_iff_right
  have hphase := h.phase
  cases hp : l.phase with
  | ended =>
    rw [hp] at hphase
    simp only [Link.step?, hp, hphase, Phase.later]
    exact .none
  | closing t =>
    rw [hp] at hphase
    simp only [Link.step?, hp, hphase, Phase.later, hdue]
    split
    · exact .some { h with phase := rfl }
    · exact .none
  | running =>
    rw [hp] at hphase
    cases ha : l.closeAsked with
    | true =>
      rw [step?_of_asked hp ha, step?_of_asked hphase (h.closeAsked.trans ha)]
      exact .some { h with
        calls := rel_concat h.calls (.close now)
        phase := h.closingPhase now }
    | false =>
      have ha' := h.closeAsked.trans ha
      have houtbox := h.outbox
      cases ho : l.outbox with
      | cons text outbox =>
        rw [ho] at houtbox
        obtain ⟨text', outbox', htext, hrest, ho'⟩ := List.forall₂_cons_left_iff.mp houtbox
        rw [step?_of_text hp ha ho, step?_of_text hphase ha' ho']
        have hsent : Later d { l with outbox := outbox } { l' with outbox := outbox' } :=
          { h with outbox := hrest }
        exact .some (hsent.transmit now htext)
      | nil =>
        rw [ho] at houtbox
        rw [step?_of_silence hp ha ho, step?_of_silence hphase ha' (List.forall₂_nil_left_iff.mp houtbox), h.arrivals]
        cases l.socket.arrivals with
        | nil => exact .none
        | cons p arrivals =>
          have htaken : Later d { l with socket := { l.socket with arrivals := arrivals } }
              { l' with socket := { l'.socket with arrivals := arrivals.map fun p => (p.1 + d, p.2) } } :=
            { h with arrivals := rfl }
          simp only [List.map_cons, hdue]
          split
          · exact .some (htaken.accept p.2)
          · exact .none

theorem Later.turn (h : l.Later d l') (now : Nat) : (l.turn now).Later d (l'.turn (now + d)) := by
  have hstep := h.step? now
  unfold Link.turn
  generalize l.step? now = next, l'.step? (now + d) = next' at hstep
  cases hstep with
  | none => exact h
  | some hnext => exact hnext

theorem Later.work (h : l.Later d l') : l'.work = l.work := by
  have hrank : Phase.rank l'.phase = Phase.rank l.phase := by
    rw [h.phase]
    cases l.phase <;> rfl
  simp only [Link.work, hrank, h.outbox.length_eq, h.arrivals, List.length_map]

theorem Later.settle (h : l.Later d l') (now : Nat) : (l.settle now).Later d (l'.settle (now + d)) := by
  -- by the number of steps that are left, which is the same at both times
  induction l using settle.induct now generalizing l' with
  | case1 l next hstep ih =>
    have hnext := h.step? now
    rw [hstep] at hnext
    rw [settle_eq l, settle_eq l', hstep]
    generalize l'.step? (now + d) = next' at hnext
    cases hnext with
    | some hnext => exact ih hnext
  | case2 l hrest =>
    have hnext := h.step? now
    rw [hrest] at hnext
    rw [settle_eq l, settle_eq l', hrest]
    generalize l'.step? (now + d) = next' at hnext
    cases hnext with
    | none => exact h

theorem Later.wakesAt (h : l.Later d l') : l'.wakesAt = l.wakesAt.map (· + d) := by
  unfold Link.wakesAt
  rw [h.phase, h.arrivals]
  cases l.phase with
  | running => cases l.socket.arrivals <;> rfl
  | closing t => rfl
  | ended => rfl

theorem Later.passUpTo (fuel : Nat) (h : l.Later d l') (until_ : Nat) :
    (passUpTo fuel l until_).Later d (passUpTo fuel l' (until_ + d)) := by
  induction fuel generalizing l l' with
  | zero => exact h
  | succ fuel ih =>
    unfold Link.passUpTo
    rw [h.wakesAt]
    cases l.wakesAt with
    | none => exact h
    | some t =>
      simp only [Option.map_some, Nat.add_le_add_iff_right]
      split
      · exact ih (h.settle t)
      · exact h

theorem Later.pass (h : l.Later d l') (now until_ : Nat) :
    (l.pass now until_).Later d (l'.pass (now + d) (until_ + d)) := by
  have hsettled := h.settle now
  unfold Link.pass
  simp only [hsettled.work]
  exact hsettled.passUpTo _ until_

end Link

namespace Pulse

def later (d : Nat) (p : Pulse) : Pulse :=
  { p with next := p.next + d }

@[simp] theorem later_next (p : Pulse) : (p.later d).next = p.next + d := rfl

theorem heartbeatDue_later (now interval d : Nat) (last : Option Nat) :
    heartbeatDue (now + d) (last.map (· + d)) interval = heartbeatDue now last interval := by
  cases last with
  | none => rfl
  | some last => simp only [heartbeatDue, Option.map_some, Nat.add_sub_add_right]

theorem isRetimed_message (p : Pulse) : IsRetimed d (writeMessage p.message) (writeMessage (p.later d).message) := by
  refine ⟨p.message, rfl, ?_⟩
  simp only [message, later, Message.later, UInt64.ofNat_add]

variable {l l' : Link}

theorem check_later (p : Pulse) (last : Option Nat) (h : l.Later d l') :
    ((p.later d).check (last.map (· + d)) l').1 = (p.check last l).1.later d ∧
      (p.check last l).2.Later d ((p.later d).check (last.map (· + d)) l').2 := by
  have hbeat : (p.later d).beat (last.map (· + d)) l'.isOpen = p.beat last l.isOpen := by
    unfold beat
    rw [h.isOpen]
    simp only [later, heartbeatDue_later]
  have hafter (b : Beat) : (p.later d).after b = (p.after b).later d := by
    cases b <;> simp only [after, later, Nat.add_right_comm]
  unfold check
  rw [hbeat]
  cases hb : p.beat last l.isOpen with
  | sent => exact ⟨hafter .sent, h.send p.isRetimed_message⟩
  | skipped => exact ⟨hafter .skipped, h⟩
  | refused => exact ⟨hafter .refused, h⟩

theorem run_later (p : Pulse) (last : Option Nat) (h : l.Later d l') (now until_ : Nat) :
    ((p.later d).run (last.map (· + d)) l' (now + d) (until_ + d)).1 = (p.run last l now until_).1.later d ∧
      (p.run last l now until_).2.Later d ((p.later d).run (last.map (· + d)) l' (now + d) (until_ + d)).2 := by
  revert l'
  induction p, l, now using run.induct last until_ with
  | case1 p l now hdue checked hless =>
    rename_i ih
    intro l' h
    have hdue' : (p.later d).stopped = false ∧ 0 < (p.later d).interval ∧ (p.later d).next ≤ until_ + d :=
      ⟨hdue.1, hdue.2.1, Nat.add_le_add_right hdue.2.2 d⟩
    obtain ⟨hpulse, hlink⟩ := check_later p last (h.pass now p.next)
    rw [run_of_due hdue, run_of_due hdue', later_next, hpulse]
    exact ih (hlink.settle p.next)
  | case2 p l now hrest =>
    intro l' h
    have hrest' : ¬((p.later d).stopped = false ∧ 0 < (p.later d).interval ∧ (p.later d).next ≤ until_ + d) :=
      fun hdue' => hrest ⟨hdue'.1, hdue'.2.1, Nat.le_of_add_le_add_right hdue'.2.2⟩
    rw [run_of_rest hrest, run_of_rest hrest']
    exact ⟨rfl, h.pass now until_⟩

end Pulse

end PaddleLink
