import PaddleLink.Presence
import PaddleLink.Proofs.Transport.Traffic
import PaddleLink.Transport.Connections

namespace PaddleLink

/-- Whom a channel is for, and the texts that were queued on it, be they sent or not. -/
structure Voice where
  target : Target
  texts : List String
  deriving DecidableEq, Repr

namespace Link

def voice (l : Link) : Voice :=
  ⟨l.target, l.sent ++ l.outbox⟩

theorem voice_send (l : Link) (text : String) :
    (l.send text).voice = if l.isOpen then ⟨l.target, l.voice.texts ++ [text]⟩ else l.voice := by
  unfold send
  split
  · have hsent : ({ l with outbox := l.outbox ++ [text] } : Link).sent = l.sent := rfl
    rw [voice, voice, hsent, List.append_assoc]
  · rfl

theorem voice_tell (l : Link) (n : Notice) : (l.tell n).voice = l.voice := by
  unfold tell
  split <;> rfl

theorem voice_lose (l : Link) (reason : Option String) : (l.lose reason).voice = l.voice :=
  voice_tell l _

theorem voice_accept (l : Link) (a : Arrival) : (l.accept a).voice = l.voice := by
  cases a with
  | frame text =>
    simp only [accept, receive]
    split
    · rfl
    · exact voice_tell l _
    · rfl
  | failure e => exact voice_lose l _
  | hangUp => exact voice_lose l _
  | collapse => rfl

/-- A turn may move a text from those that wait to those that the socket was given. -/
theorem voice_turn (l : Link) (now : Nat) : (l.turn now).voice = l.voice := by
  have hturn := l.turnOutcome now
  revert hturn
  generalize l.turn now = l', l.end? now = ending
  intro hturn
  have hmoved : ∀ (text : String) (outbox : List String), l.outbox = text :: outbox →
      (recordCall { l with outbox := outbox } now (.send text)).voice = l.voice := by
    intro text outbox ho
    have hsent : ({ l with outbox := outbox } : Link).sent = l.sent := rfl
    rw [voice, Traffic.sent_append_send, hsent, voice, ho, List.append_assoc]
    rfl
  cases hturn with
  | rest => rfl
  | finish t hp => rfl
  | close hp ha =>
    have hsent : (l.recordCall now .close).sent = l.sent := Traffic.sent_append_close l now
    rw [voice, voice, ← hsent]
    rfl
  | send text outbox hp ha ho hf => exact hmoved text outbox ho
  | sendFailed text outbox e hp ha ho hf => rw [voice_lose, hmoved text outbox ho]
  | accept t a arrivals hp ha ho hi ht => exact voice_accept _ a

section

variable {P : Link → Prop}

theorem settle_eq (l : Link) (now : Nat) :
    l.settle now = match l.step? now with
      | some l' => l'.settle now
      | none => l := by
  rw [settle]
  split
  · rename_i l' h
    rw [h]
  · rename_i h
    rw [h]

/-- What every turn keeps is kept until the loop comes to rest. -/
theorem settle_keeps (hturn : ∀ l now, P l → P (l.turn now)) {l : Link} (now : Nat) (h : P l) :
    P (l.settle now) := by
  -- by the number of steps that are left, which is finite because each one leaves less to do
  induction l using settle.induct now with
  | case1 l l' hstep ih =>
    have hl' : l.turn now = l' := by rw [turn, hstep, Option.getD_some]
    rw [settle_eq, hstep]
    exact ih (hl' ▸ hturn l now h)
  | case2 l hrest =>
    rw [settle_eq, hrest]
    exact h

theorem passUpTo_keeps (hturn : ∀ l now, P l → P (l.turn now)) (fuel : Nat) {l : Link} (until_ : Nat) (h : P l) :
    P (passUpTo fuel l until_) := by
  induction fuel generalizing l with
  | zero => exact h
  | succ fuel ih =>
    unfold passUpTo
    split
    · split
      · exact ih (settle_keeps hturn _ h)
      · exact h
    · exact h

theorem pass_keeps (hturn : ∀ l now, P l → P (l.turn now)) {l : Link} (now until_ : Nat) (h : P l) :
    P (l.pass now until_) :=
  passUpTo_keeps hturn _ until_ (settle_keeps hturn now h)

end

theorem voice_settle (l : Link) (now : Nat) : (l.settle now).voice = l.voice :=
  settle_keeps (P := fun l' => l'.voice = l.voice) (fun l' now h => (voice_turn l' now).trans h) now rfl

theorem voice_pass (l : Link) (now until_ : Nat) : (l.pass now until_).voice = l.voice :=
  pass_keeps (P := fun l' => l'.voice = l.voice) (fun l' now h => (voice_turn l' now).trans h) now until_ rfl

end Link

namespace Pulse

theorem after_identity (p : Pulse) (b : Beat) :
    (p.after b).session = p.session ∧ (p.after b).player = p.player := by
  cases b with
  | skipped | sent | refused => exact ⟨rfl, rfl⟩

inductive CheckOutcome (p : Pulse) (lastSnapshot : Option Nat) (l : Link) : Pulse × Link → Prop where
  | skipped (due : heartbeatDue p.next lastSnapshot p.interval = false) :
    CheckOutcome p lastSnapshot l (p.after .skipped, l)
  | sent (due : heartbeatDue p.next lastSnapshot p.interval = true) (isOpen : l.isOpen = true) :
    CheckOutcome p lastSnapshot l (p.after .sent, l.send (writeMessage p.message))
  | refused (due : heartbeatDue p.next lastSnapshot p.interval = true) (shut : l.isOpen = false) :
    CheckOutcome p lastSnapshot l (p.after .refused, l)

theorem checkOutcome (p : Pulse) (lastSnapshot : Option Nat) (l : Link) :
    p.CheckOutcome lastSnapshot l (p.check lastSnapshot l) := by
  unfold check beat
  cases hdue : heartbeatDue p.next lastSnapshot p.interval with
  | false => exact .skipped hdue
  | true =>
    cases hopen : l.isOpen with
    | true => exact .sent hdue hopen
    | false => exact .refused hdue hopen

theorem run_of_due {p : Pulse} {until_ : Nat} (hdue : p.stopped = false ∧ 0 < p.interval ∧ p.next ≤ until_)
    (last : Option Nat) (l : Link) (now : Nat) :
    p.run last l now until_ =
      (p.check last (l.pass now p.next)).1.run last ((p.check last (l.pass now p.next)).2.settle p.next) p.next
        until_ := by
  rw [run, dif_pos hdue]

theorem run_of_rest {p : Pulse} {until_ : Nat} (hrest : ¬(p.stopped = false ∧ 0 < p.interval ∧ p.next ≤ until_))
    (last : Option Nat) (l : Link) (now : Nat) : p.run last l now until_ = (p, l.pass now until_) := by
  rw [run, dif_neg hrest]

/-- What the turns of the loop keep and the heartbeats of a session do not break is kept while time passes, and the
heartbeats stay those of the session. -/
theorem run_keeps {P : Link → Prop} (session : SessionId) (player : ActorId)
    (hturn : ∀ l now, P l → P (l.turn now))
    (hsend : ∀ l time, P l → P (l.send (writeMessage (.heartbeat ⟨session, player, time⟩))))
    (p : Pulse) (lastSnapshot : Option Nat) (l : Link) (now until_ : Nat)
    (hp : p.session = session ∧ p.player = player) (h : P l) :
    let (p', l') := p.run lastSnapshot l now until_
    (p'.session = session ∧ p'.player = player) ∧ P l' := by
  -- the induction follows the checks: the loop comes to rest before and after each of them
  fun_induction p.run lastSnapshot l now until_ with
  | case1 p l now hdue checked hless ih =>
    have hpassed : P (l.pass now p.next) := Link.pass_keeps hturn now p.next h
    have hchecked : P checked.2 := by
      simp only [checked, check]
      split
      · rw [message, hp.1, hp.2]
        exact hsend _ _ hpassed
      · exact hpassed
    have hsame : checked.1.session = session ∧ checked.1.player = player := by
      have hfst : checked.1 = p.after (p.beat lastSnapshot (l.pass now p.next).isOpen) := check_fst p _ _
      rw [hfst, (after_identity p _).1, (after_identity p _).2]
      exact hp
    exact ih hsame (Link.settle_keeps hturn _ hchecked)
  | case2 p l now hdone => exact ⟨hp, Link.pass_keeps hturn now until_ h⟩

theorem run_identity (p : Pulse) (lastSnapshot : Option Nat) (l : Link) (now until_ : Nat) :
    (p.run lastSnapshot l now until_).1.session = p.session ∧ (p.run lastSnapshot l now until_).1.player = p.player :=
  (run_keeps (P := fun _ => True) p.session p.player (fun _ _ _ => trivial) (fun _ _ _ => trivial) p lastSnapshot l
    now until_ ⟨rfl, rfl⟩ trivial).1

end Pulse

namespace Connection

theorem voice_push (k : Connection) (now : Nat) (text : String) : (k.push now text).link.voice = k.link.voice := by
  unfold push
  split <;> rfl

theorem voice_hangUp (k : Connection) (now : Nat) : (k.hangUp now).link.voice = k.link.voice := by
  unfold hangUp
  split <;> rfl

theorem voice_dropServer (k : Connection) (now : Nat) : (k.dropServer now).link.voice = k.link.voice :=
  voice_hangUp k now

end Connection

namespace Connections

def voices (c : Connections) : List Voice :=
  c.all.map fun k => k.link.voice

theorem map_modify_of_same {α β : Type} {f : α → α} {g : α → β} (h : ∀ a, g (f a) = g a) (l : List α) (i : Nat) :
    (l.modify i f).map g = l.map g := by
  apply List.ext_getElem?
  intro j
  simp only [List.getElem?_map, List.getElem?_modify]
  cases l[j]? with
  | none => rfl
  | some a =>
    by_cases hij : i = j
    · simp [hij, h]
    · simp [hij]

theorem voices_eq (c : Connections) :
    c.voices = (c.past.map fun k => k.link.voice) ++ (c.held.map fun k => k.link.voice).toList := by
  rw [voices, all, List.map_append]
  cases c.held <;> rfl

theorem voices_modify (c : Connections) (i : Nat) {f : Connection → Connection}
    (hf : ∀ k, (f k).link.voice = k.link.voice) : (c.modify i f).voices = c.voices := by
  rw [voices_eq, voices_eq]
  unfold modify
  split
  · rw [map_modify_of_same hf]
  · split
    · simp [hf, Function.comp_def]
    · rfl

theorem voices_settle (c : Connections) (now : Nat) : (c.settle now).voices = c.voices := by
  rw [voices_eq, voices_eq]
  simp [settle, mapAll, Connection.mapLink, Link.voice_settle, Function.comp_def]

theorem voices_close (c : Connections) : c.close.voices = c.voices := by
  rw [voices_eq, voices_eq]
  cases h : c.held with
  | none => simp [close, h]
  | some k =>
    have hclosed : (k.mapLink Link.close).link.voice = k.link.voice := rfl
    simp [close, h, hclosed]

end Connections

end PaddleLink
