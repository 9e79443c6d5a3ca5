import Mathlib.Data.List.Induction
import PaddleLink.Proofs.Presence.Schedule

namespace PaddleLink

structure Watch where
  pulse : Option Pulse
  link : Link
  lastSnapshot : Option Nat
  now : Nat

namespace Watch

def begin (target : Target) (session : SessionId) (player : ActorId) (interval : Nat) : Watch :=
  ⟨some (.start session player interval 0), .fresh target .fresh, none, 0⟩

def pass (w : Watch) (until_ : Nat) : Watch :=
  match w.pulse with
  | some p =>
    let (p, l) := p.run w.lastSnapshot w.link w.now until_
    { w with pulse := some p, link := l, now := until_ }
  | none => { w with link := w.link.pass w.now until_, now := until_ }

def meet (w : Watch) : PulseEvent → Watch
  | .snapshot => { w with lastSnapshot := some w.now }
  | .cancel => { w with pulse := none }
  | .close => { w with link := w.link.close }
  | .lose reason => { w with link := w.link.lose reason }

/-- Lets time pass up to an event. The check of that time waits for an event that comes before it. -/
def step (w : Watch) (e : Timed) : Watch :=
  meet { w.pass e.reach with now := e.time } e.event

def run (w : Watch) (es : List Timed) : Watch :=
  es.foldl step w

end Watch

namespace Schedule

structure Beats (session : SessionId) (player : ActorId) (interval : Nat) (es : List Timed) (n : Nat) (p : Pulse) :
    Prop where
  hsession : p.session = session
  hplayer : p.player = player
  hinterval : p.interval = interval
  next : p.stopped = false → p.next = (n + 1) * interval
  stopped : p.stopped = true ↔ ∃ k, 1 ≤ k ∧ k ≤ n ∧ Refuses es interval k

/-- What a watch has come to after the events of a schedule and `n` checks. -/
structure Follows (session : SessionId) (player : ActorId) (interval : Nat) (es : List Timed) (n : Nat) (w : Watch) :
    Prop where
  sends : w.link.sends = expected session player interval es n
  outbox : w.link.outbox = []
  last : w.lastSnapshot = lastSnapshot es
  clear : ¬Closed es → w.link.Clear
  shut : Closed es → w.link.isOpen = false
  pulse : w.pulse.isNone = true ↔ Cancelled es
  beats : ∀ p, w.pulse = some p → Beats session player interval es n p
  ahead : ∀ e ∈ es, e.precedes ((n + 1) * interval) = true

variable {session : SessionId} {player : ActorId} {interval : Nat} {es : List Timed} {n : Nat} {w : Watch}

theorem follows_begin (target : Target) (hi : 0 < interval) :
    Follows session player interval [] 0 (.begin target session player interval) where
  sends := rfl
  outbox := rfl
  last := rfl
  clear := fun _ => Link.clear_fresh target
  shut := by simp [Closed]
  pulse := by simp [Watch.begin, Cancelled]
  beats := by
    intro p hp
    obtain rfl : Pulse.start session player interval 0 = p := Option.some.inj hp
    refine ⟨rfl, rfl, rfl, fun _ => by simp [Pulse.start], ?_⟩
    constructor
    · intro hstopped
      have hzero : interval = 0 := of_decide_eq_true hstopped
      omega
    · rintro ⟨k, hk, hn, -⟩
      omega
  ahead := by simp

theorem Follows.not_cancelled (h : Follows session player interval es n w) {p : Pulse} (hp : w.pulse = some p) :
    ¬Cancelled es := by
  rw [← h.pulse, hp]
  simp

theorem Follows.clear_or_closed (h : Follows session player interval es n w) : w.link.Clear ∨ Closed es := by
  by_cases hclosed : Closed es
  · exact .inr hclosed
  · exact .inl (h.clear hclosed)

/-- The later checks come behind all events. -/
theorem Follows.before_eq (h : Follows session player interval es n w) {k : Nat} (hk : n < k) :
    before es (k * interval) = es := by
  apply before_eq_self
  intro e he
  exact Timed.precedes_mono (h.ahead e he) (Nat.mul_le_mul_right interval hk)

/-- Once the heartbeats are over the later checks let nothing go out. -/
theorem Follows.of_over (h : Follows session player interval es n w)
    (hover : ∀ p, w.pulse = some p → p.stopped = true) {n' : Nat} (hn : n ≤ n') :
    Follows session player interval es n' w := by
  have hend : Cancelled es ∨ Closed es := by
    cases hp : w.pulse with
    | none => exact .inl (h.pulse.mp (by rw [hp]; rfl))
    | some p =>
      obtain ⟨k, -, -, hrefuses⟩ := (h.beats p hp).stopped.mp (hover p hp)
      exact .inr hrefuses.2.1.of_before
  have hsilent : ∀ k, n < k → ¬Sends es interval k := by
    rintro k hk ⟨hgoing, hopen, -⟩
    rw [h.before_eq hk] at hgoing hopen
    rcases hend with hcancelled | hclosed
    · exact hgoing hcancelled
    · exact hopen hclosed
  refine ⟨?_, h.outbox, h.last, h.clear, h.shut, h.pulse, ?_, ?_⟩
  · rw [h.sends, expected_of_silence session player interval hn hsilent]
  · intro p hp
    have hstopped := hover p hp
    obtain ⟨k, hk, hkn, hrefuses⟩ := (h.beats p hp).stopped.mp hstopped
    refine { h.beats p hp with
      next := ?_
      stopped := ⟨fun _ => ⟨k, hk, Nat.le_trans hkn hn, hrefuses⟩, fun _ => hstopped⟩ }
    rw [hstopped]
    intro hrunning
    cases hrunning
  · intro e he
    exact Timed.precedes_mono (h.ahead e he) (Nat.mul_le_mul_right interval (Nat.succ_le_succ hn))

theorem Follows.rest (h : Follows session player interval es n w) (now until_ later : Nat) :
    Follows session player interval es n { w with link := w.link.pass now until_, now := later } := by
  have hrests := Link.rests_pass (h.clear_or_closed.imp_right h.shut) h.outbox now until_
  exact { h with
    sends := hrests.sends.trans h.sends
    outbox := hrests.outbox
    clear := fun hopen => hrests.clear (h.clear hopen)
    shut := fun hclosed => hrests.shut (h.shut hclosed) }

/-- A check finds a heartbeat due exactly when the schedule says so. -/
theorem Follows.due_iff (h : Follows session player interval es n w) (hi : 0 < interval) {p : Pulse}
    (hp : w.pulse = some p) (hrunning : p.stopped = false) :
    heartbeatDue p.next w.lastSnapshot p.interval = true ↔ Due es interval (n + 1) := by
  have hbeats := h.beats p hp
  have hnow : (n + 1) * interval = n * interval + interval := Nat.succ_mul n interval
  rw [Due, h.before_eq (Nat.lt_succ_self n), h.last, hbeats.next hrunning, hbeats.hinterval, hnow, Nat.add_sub_cancel]
  cases lastSnapshot es with
  | none => simp [heartbeatDue]
  | some last =>
    generalize n * interval = time
    simp only [heartbeatDue, decide_eq_true_eq, Option.mem_some_iff, forall_eq']
    omega

/-- The heartbeats after their next check. -/
theorem Beats.after {p : Pulse} (h : Beats session player interval es n p) (hrunning : p.stopped = false) {b : Beat}
    (hverdict : b = .refused ↔ Refuses es interval (n + 1)) : Beats session player interval es (n + 1) (p.after b) := by
  have hnone : ∀ k, 1 ≤ k → k ≤ n → ¬Refuses es interval k := by
    intro k hk hn hrefuses
    have hstopped := h.stopped.mpr ⟨k, hk, hn, hrefuses⟩
    rw [hrunning] at hstopped
    cases hstopped
  have hfirst : (∃ k, 1 ≤ k ∧ k ≤ n + 1 ∧ Refuses es interval k) ↔ b = .refused := by
    rw [hverdict]
    constructor
    · rintro ⟨k, hk, hn, hrefuses⟩
      rcases Nat.lt_or_eq_of_le hn with hlt | rfl
      · exact absurd hrefuses (hnone k hk (Nat.le_of_lt_succ hlt))
      · exact hrefuses
    · exact fun hrefuses => ⟨n + 1, Nat.succ_pos n, Nat.le_refl _, hrefuses⟩
  have hnext : p.next + p.interval = (n + 1 + 1) * interval := by
    rw [h.next hrunning, h.hinterval, ← Nat.succ_mul]
  cases b with
  | skipped => exact ⟨h.hsession, h.hplayer, h.hinterval, fun _ => hnext, by simp [hfirst, Pulse.after, hrunning]⟩
  | sent => exact ⟨h.hsession, h.hplayer, h.hinterval, fun _ => hnext, by simp [hfirst, Pulse.after, hrunning]⟩
  | refused => exact ⟨h.hsession, h.hplayer, h.hinterval, by simp [Pulse.after], by simp [hfirst, Pulse.after]⟩

/-- What the next check comes to, once it is known what it does to the channel. -/
theorem Follows.next {p : Pulse} {l l' : Link} {last : Option Nat} {now : Nat}
    (h : Follows session player interval es n ⟨some p, l, last, now⟩) (hrunning : p.stopped = false) {b : Beat}
    (hverdict : b = .refused ↔ Refuses es interval (n + 1))
    (hsends : l'.sends = expected session player interval es (n + 1)) (hout : l'.outbox = [])
    (hclear : l.Clear → l'.Clear) (hshut : l.isOpen = false → l'.isOpen = false) :
    Follows session player interval es (n + 1) ⟨some (p.after b), l', last, p.next⟩ where
  sends := hsends
  outbox := hout
  last := h.last
  clear := fun hopen => hclear (h.clear hopen)
  shut := fun hclosed => hshut (h.shut hclosed)
  pulse := h.pulse
  beats := by
    intro q hq
    obtain rfl := Option.some.inj hq
    exact (h.beats p rfl).after hrunning hverdict
  ahead := by
    intro e he
    exact Timed.precedes_mono (h.ahead e he) (Nat.mul_le_mul_right interval (Nat.le_succ _))

theorem Follows.sends_iff (h : Follows session player interval es n w) {p : Pulse} (hp : w.pulse = some p) :
    Sends es interval (n + 1) ↔ ¬Closed es ∧ Due es interval (n + 1) := by
  rw [Sends, h.before_eq (Nat.lt_succ_self n)]
  exact ⟨fun hall => hall.2, fun hall => ⟨h.not_cancelled hp, hall⟩⟩

theorem Follows.refuses_iff (h : Follows session player interval es n w) {p : Pulse} (hp : w.pulse = some p) :
    Refuses es interval (n + 1) ↔ Closed es ∧ Due es interval (n + 1) := by
  rw [Refuses, h.before_eq (Nat.lt_succ_self n)]
  exact ⟨fun hall => hall.2, fun hall => ⟨h.not_cancelled hp, hall⟩⟩

theorem Follows.quiet {p : Pulse} {l : Link} {last : Option Nat} {now : Nat}
    (h : Follows session player interval es n ⟨some p, l, last, now⟩) (hrunning : p.stopped = false) {b : Beat}
    (hsilent : ¬Sends es interval (n + 1)) (hverdict : b = .refused ↔ Refuses es interval (n + 1)) :
    Follows session player interval es (n + 1) ⟨some (p.after b), l.settle p.next, last, p.next⟩ := by
  have hrests := Link.rests_settle (h.clear_or_closed.imp_right h.shut) h.outbox p.next
  apply h.next hrunning hverdict _ hrests.outbox hrests.clear hrests.shut
  rw [hrests.sends, h.sends, expected, if_neg hsilent, List.append_nil]

theorem Follows.send {p : Pulse} {l : Link} {last : Option Nat} {now : Nat}
    (h : Follows session player interval es n ⟨some p, l, last, now⟩) (hrunning : p.stopped = false)
    (hopen : ¬Closed es) (hdue : Due es interval (n + 1)) :
    Follows session player interval es (n + 1)
      ⟨some (p.after .sent), (l.send (writeMessage p.message)).settle p.next, last, p.next⟩ := by
  have hclear : l.Clear := h.clear hopen
  have hempty : l.outbox = [] := h.outbox
  have hsends : l.sends = expected session player interval es n := h.sends
  have hbeats : Beats session player interval es n p := h.beats p rfl
  have hnext : p.next = (n + 1) * interval := hbeats.next hrunning
  have hqueued : l.send (writeMessage p.message) = { l with outbox := [writeMessage p.message] } := by
    rw [Link.send, if_pos hclear.isOpen, hempty]
    rfl
  have hqueue : (l.send (writeMessage p.message)).Clear := by
    rw [hqueued]
    exact ⟨hclear.isOpen, hclear.fault, hclear.arrivals⟩
  obtain ⟨hsettled, hdone, hsent⟩ := hqueue.settle p.next
  have hverdict : Beat.sent = .refused ↔ Refuses es interval (n + 1) := by simp [h.refuses_iff rfl, hopen]
  refine h.next hrunning hverdict ?_ hdone (fun _ => hsettled) ?_
  · calc ((l.send (writeMessage p.message)).settle p.next).sends
        = l.sends ++ [(p.next, writeMessage p.message)] := by rw [hsent, hqueued]; rfl
      _ = expected session player interval es (n + 1) := by
        rw [expected, if_pos ((h.sends_iff rfl).mpr ⟨hopen, hdue⟩), hsends, Pulse.message, hbeats.hsession,
          hbeats.hplayer, hnext]
  · intro hshut
    have hisOpen := hclear.isOpen
    rw [hshut] at hisOpen
    cases hisOpen

theorem follows_check {p : Pulse} {l : Link} {last : Option Nat} {now : Nat}
    (h : Follows session player interval es n ⟨some p, l, last, now⟩) (hi : 0 < interval)
    (hrunning : p.stopped = false) :
    Follows session player interval es (n + 1)
      ⟨some (p.check last l).1, (p.check last l).2.settle p.next, last, p.next⟩ := by
  have hdue : heartbeatDue p.next last p.interval = true ↔ Due es interval (n + 1) := h.due_iff hi rfl hrunning
  have houtcome := p.checkOutcome last l
  generalize p.check last l = checked at houtcome
  cases houtcome with
  | skipped due =>
    have hnot : ¬Due es interval (n + 1) := by
      rw [← hdue, due]
      exact Bool.false_ne_true
    apply h.quiet hrunning (b := .skipped)
    · exact fun hsends => hnot ((h.sends_iff rfl).mp hsends).2
    · simp [h.refuses_iff rfl, hnot]
  | refused due shut =>
    have hclosed : Closed es := by
      rcases h.clear_or_closed with hclear | hclosed
      · have hopen : l.isOpen = true := Link.Clear.isOpen hclear
        rw [shut] at hopen
        cases hopen
      · exact hclosed
    apply h.quiet hrunning (b := .refused)
    · exact fun hsends => ((h.sends_iff rfl).mp hsends).1 hclosed
    · simp [h.refuses_iff rfl, hclosed, hdue.mp due]
  | sent due isOpen =>
    have hopen : ¬Closed es := by
      intro hclosed
      have hshut : l.isOpen = false := h.shut hclosed
      rw [isOpen] at hshut
      cases hshut
    exact h.send hrunning hopen (hdue.mp due)

/-- The checks of a stretch of time are carried out, as many as there are. -/
theorem follows_run {p : Pulse} {l : Link} {last : Option Nat} {now : Nat} (hi : 0 < interval) (until_ : Nat)
    (h : Follows session player interval es n ⟨some p, l, last, now⟩) :
    Follows session player interval es (max n (until_ / interval))
      ⟨some (p.run last l now until_).1, (p.run last l now until_).2, last, until_⟩ := by
  induction p, l, now using Pulse.run.induct last until_ generalizing n with
  | case1 p l now hdue checked hless =>
    rename_i ih
    have hchecked := follows_check (h.rest now p.next now) hi hdue.1
    have hreached : n + 1 ≤ until_ / interval := by
      rw [Nat.le_div_iff_mul_le hi, ← (h.beats p rfl).next hdue.1]
      exact hdue.2.2
    have hrest := ih hchecked
    rw [Pulse.run_of_due hdue, Nat.max_eq_right (Nat.le_of_succ_le hreached)]
    rwa [Nat.max_eq_right hreached] at hrest
  | case2 p l now hrest =>
    have hrested := h.rest now until_ until_
    rw [Pulse.run_of_rest hrest]
    cases hstopped : p.stopped with
    | true =>
      refine hrested.of_over ?_ (Nat.le_max_left _ _)
      intro q hq
      obtain rfl := Option.some.inj hq
      exact hstopped
    | false =>
      have hbeats := h.beats p rfl
      have hnone : until_ / interval ≤ n := by
        apply Nat.le_of_lt_succ
        rw [Nat.div_lt_iff_lt_mul hi, ← hbeats.next hstopped]
        exact Nat.lt_of_not_le fun hnext => hrest ⟨hstopped, by rw [hbeats.hinterval]; exact hi, hnext⟩
      rw [Nat.max_eq_left hnone]
      exact hrested

theorem follows_pass (h : Follows session player interval es n w) (hi : 0 < interval) (until_ : Nat) :
    Follows session player interval es (max n (until_ / interval)) (w.pass until_) := by
  obtain ⟨pulse, l, last, now⟩ := w
  cases pulse with
  | some p => exact follows_run hi until_ h
  | none =>
    refine (h.rest now until_ until_).of_over ?_ (Nat.le_max_left _ _)
    intro p hp
    cases hp

theorem link_meet (w : Watch) (e : PulseEvent) :
    (w.meet e).link.sends = w.link.sends ∧ (w.meet e).link.outbox = w.link.outbox ∧
      (e.closes = false → (w.meet e).link = w.link) ∧ (e.closes = true → (w.meet e).link.isOpen = false) := by
  cases e with
  | snapshot | cancel => exact ⟨rfl, rfl, fun _ => rfl, nofun⟩
  | close => exact ⟨rfl, rfl, nofun, fun _ => Link.isOpen_close w.link⟩
  | lose reason =>
    exact ⟨Link.sends_lose w.link reason, Link.outbox_lose w.link reason, nofun, fun _ => Link.isOpen_lose w.link reason⟩

theorem pulse_meet (w : Watch) (e : PulseEvent) : (w.meet e).pulse = if e = .cancel then none else w.pulse := by
  cases e <;> rfl

theorem lastSnapshot_meet (w : Watch) (e : PulseEvent) :
    (w.meet e).lastSnapshot = if e = .snapshot then some w.now else w.lastSnapshot := by
  cases e <;> rfl

/-- An event that comes behind all checks so far and before the next one. -/
theorem follows_meet (h : Follows session player interval es n w) {e : Timed} (htime : w.now = e.time)
    (hbehind : ∀ k, 1 ≤ k → k ≤ n → e.precedes (k * interval) = false)
    (hahead : e.precedes ((n + 1) * interval) = true) :
    Follows session player interval (es ++ [e]) n (w.meet e.event) := by
  obtain ⟨hsends, hout, hkept, hclosed⟩ := link_meet w e.event
  have hbefore : ∀ k, 1 ≤ k → k ≤ n → before (es ++ [e]) (k * interval) = before es (k * interval) :=
    fun k hk hn => before_append_of_not_precedes (hbehind k hk hn)
  refine ⟨?_, hout.trans h.outbox, ?_, ?_, ?_, ?_, ?_, ?_⟩
  · rw [hsends, h.sends, expected_congr session player interval hbefore]
  · rw [lastSnapshot_meet, lastSnapshot_concat, h.last, htime]
  · intro hopen
    obtain ⟨hes, he⟩ := not_or.mp (mt closed_concat.mpr hopen)
    rw [hkept (Bool.eq_false_iff.mpr he)]
    exact h.clear hes
  · intro hclosing
    cases he : e.event.closes with
    | true => exact hclosed he
    | false =>
      rw [hkept he]
      exact h.shut ((closed_concat.mp hclosing).resolve_right (by simp [he]))
  · rw [pulse_meet, cancelled_concat, ← h.pulse]
    split <;> simp [*]
  · intro p hp
    rw [pulse_meet] at hp
    split at hp
    · cases hp
    · have hbeats := h.beats p hp
      have hrefuses : (∃ k, 1 ≤ k ∧ k ≤ n ∧ Refuses (es ++ [e]) interval k) ↔
          ∃ k, 1 ≤ k ∧ k ≤ n ∧ Refuses es interval k := by
        refine exists_congr fun k => and_congr_right fun hk => and_congr_right fun hn => ?_
        rw [Refuses, Refuses, Due, Due, hbefore k hk hn]
      exact { hbeats with stopped := hbeats.stopped.trans hrefuses.symm }
  · intro a ha
    rcases List.mem_append.mp ha with ha | ha
    · exact h.ahead a ha
    · rwa [List.mem_singleton.mp ha]

def Passed (interval : Nat) (es : List Timed) (n : Nat) : Prop :=
  n = 0 ∨ ∃ e ∈ es, e.precedes (n * interval) = false

/-- One event of a schedule, with the checks before it. -/
theorem follows_step (hi : 0 < interval) (h : Follows session player interval es n w) (hpassed : Passed interval es n)
    {e : Timed} (hsorted : ∀ a ∈ es, a.Sorted e) :
    let n' := max n (e.reach / interval)
    Follows session player interval (es ++ [e]) n' (w.step e) ∧ Passed interval (es ++ [e]) n' := by
  intro n'
  have hbehind : ∀ k, 1 ≤ k → k ≤ n' → e.precedes (k * interval) = false := by
    intro k hk hn
    obtain hold | hnew : k ≤ n ∨ k ≤ e.reach / interval := by omega
    · obtain rfl | ⟨a, ha, hlate⟩ := hpassed
      · omega
      · apply Timed.not_precedes_of_sorted (hsorted a ha)
        rw [← Bool.not_eq_true] at hlate ⊢
        exact mt (Timed.precedes_mono · (Nat.mul_le_mul_right interval hold)) hlate
    · rw [Timed.precedes_eq_false_iff (Nat.mul_pos hk hi)]
      exact (Nat.le_div_iff_mul_le hi).mp hnew
  have hahead : e.precedes ((n' + 1) * interval) = true := by
    rw [← Bool.not_eq_false, Timed.precedes_eq_false_iff (Nat.mul_pos (Nat.succ_pos n') hi)]
    have hlt : e.reach / interval < n' + 1 := Nat.lt_succ_of_le (Nat.le_max_right _ _)
    exact Nat.not_le.mpr ((Nat.div_lt_iff_lt_mul hi).mp hlt)
  have hreached := follows_pass h hi e.reach
  refine ⟨follows_meet (w := { w.pass e.reach with now := e.time }) { hreached with } rfl hbehind hahead, ?_⟩
  rcases Nat.eq_zero_or_pos n' with hzero | hpos
  · exact .inl hzero
  · exact .inr ⟨e, by simp, hbehind n' hpos (Nat.le_refl _)⟩

theorem follows_events (target : Target) (session : SessionId) (player : ActorId) (hi : 0 < interval)
    (hes : es.Pairwise Timed.Sorted) :
    ∃ n, Follows session player interval es n ((Watch.begin target session player interval).run es) ∧
      Passed interval es n := by
  induction es using List.reverseRecOn with
  | nil => exact ⟨0, follows_begin target hi, .inl rfl⟩
  | append_singleton es e ih =>
    obtain ⟨hinit, -, hlast⟩ := List.pairwise_append.mp hes
    obtain ⟨n, h, hpassed⟩ := ih hinit
    rw [Watch.run, List.foldl_append]
    exact ⟨_, follows_step hi h hpassed fun a ha => hlast a ha e (List.mem_singleton_self e)⟩

/-- The heartbeats of a session that begins at time 0 on an open channel, up to some time at or after the last
event of a schedule. -/
theorem heartbeats_on_schedule (target : Target) (session : SessionId) (player : ActorId) (interval : Nat)
    (es : List Timed) (until_ : Nat) (hi : 0 < interval) (hes : es.Pairwise Timed.Sorted)
    (hend : ∀ e ∈ es, e.time ≤ until_) :
    let w := ((Watch.begin target session player interval).run es).pass until_
    (∀ t text, (t, text) ∈ w.link.sends ↔
      ∃ k, 1 ≤ k ∧ t = k * interval ∧ t ≤ until_ ∧ Sends es interval k ∧
        text = writeMessage (.heartbeat ⟨session, player, .ofNat t⟩)) ∧
    (w.link.sends.map Prod.fst).Pairwise (· < ·) ∧
    (∀ k, Cancelled (before es (k * interval)) ∨ Refuses es interval k → ∀ s ∈ w.link.sends, s.1 < k * interval) ∧
    (w.pulse.all (·.stopped) = true ↔
      Cancelled es ∨ ∃ k, 1 ≤ k ∧ k * interval ≤ until_ ∧ Refuses es interval k) := by
  intro w
  obtain ⟨n, h, hpassed⟩ := follows_events target session player hi hes
  have hn : n ≤ until_ / interval := by
    obtain rfl | ⟨e, he, hlate⟩ := hpassed
    · exact Nat.zero_le _
    · rw [Nat.le_div_iff_mul_le hi]
      have htime := hend e he
      rw [← Bool.not_eq_true, Timed.precedes_iff] at hlate
      omega
  have hw : Follows session player interval es (until_ / interval) w := by
    have hpass := follows_pass h hi until_
    rwa [Nat.max_eq_right hn] at hpass
  have hchecks (k : Nat) : k ≤ until_ / interval ↔ k * interval ≤ until_ := Nat.le_div_iff_mul_le hi
  refine ⟨?_, ?_, ?_, ?_⟩
  · intro t text
    rw [hw.sends, mem_expected]
    refine exists_congr fun k => and_congr_right fun _ => ?_
    rw [hchecks]
    constructor
    · rintro ⟨hk, rfl, hrest⟩
      exact ⟨rfl, hk, hrest⟩
    · rintro ⟨rfl, hk, hrest⟩
      exact ⟨hk, rfl, hrest⟩
  · rw [hw.sends]
    exact expected_increasing session player interval hi _
  · rintro k hover ⟨t, text⟩ hs
    rw [hw.sends, mem_expected] at hs
    obtain ⟨k', -, -, rfl, hsends, -⟩ := hs
    apply Nat.mul_lt_mul_of_pos_right (Nat.lt_of_not_le _) hi
    exact fun hle => not_sends_of_over hover hle hsends
  · simp only [← hchecks]
    cases hp : w.pulse with
    | none =>
      have hcancelled := hw.pulse.mp (by rw [hp]; rfl)
      simp [hcancelled]
    | some p =>
      have hgoing := hw.not_cancelled hp
      simp [hgoing, (hw.beats p hp).stopped]

/-- A snapshot stands for the next check. One that comes just before a check stands for that and the next one,
unless it is one interval old by then. -/
theorem heartbeats_around_snapshots :
    let es : List Timed := [⟨1500, false, .snapshot⟩, ⟨4000, true, .snapshot⟩, ⟨5500, false, .lose none⟩]
    let w := ((Watch.begin ⟨⟨"s"⟩, ⟨"p"⟩, .host⟩ ⟨"s"⟩ ⟨"p"⟩ 1000).run es).pass 7000
    (∃ text, (3000, text) ∈ w.link.sends) ∧ (∃ text, (5000, text) ∈ w.link.sends) ∧
      (∀ text, (4000, text) ∉ w.link.sends) ∧ w.pulse.all (·.stopped) = true := by
  intro es w
  obtain ⟨hsends, -, -, hover⟩ := heartbeats_on_schedule ⟨⟨"s"⟩, ⟨"p"⟩, .host⟩ ⟨"s"⟩ ⟨"p"⟩ 1000 es 7000 (by decide)
    (by decide) (by decide)
  refine ⟨⟨_, (hsends 3000 _).mpr ⟨3, by decide, rfl, by decide, by decide, rfl⟩⟩,
    ⟨_, (hsends 5000 _).mpr ⟨5, by decide, rfl, by decide, by decide, rfl⟩⟩, ?_,
    hover.mpr (.inr ⟨6, by decide, by decide, by decide⟩)⟩
  intro text hmem
  obtain ⟨k, -, hk, -, hsent, -⟩ := (hsends 4000 text).mp hmem
  obtain rfl : k = 4 := by omega
  exact absurd hsent (by decide)

end Schedule

end PaddleLink
