import PaddleLink.Proofs.Client.Resources

namespace PaddleLink

def Happening.isPass : Happening → Bool
  | .pass _ => true
  | _ => false

/-- What takes place at one time, or nothing for some time. -/
inductive Moment : Type 1 where
  | happens (x : Happening) (h : x.isPass = false)
  /-- Time goes by, at most up to the next check: no check is ever passed over. -/
  | wait (ms : Nat)
  | check

namespace Client

def nextCheck? (c : Client) : Option Nat :=
  c.pulse.bind fun p => if p.stopped = false ∧ 0 < p.interval then some p.next else none

def lull (c : Client) (now ms : Nat) : Nat :=
  match c.nextCheck? with
  | some next => min ms (next - now)
  | none => ms

def rest (c : Client) (now until_ : Nat) : Client :=
  if c.pulse.isSome then { c with connections := c.connections.mapHeld fun l => l.pass now until_ } else c

def withPulse (c : Client) (k : Connection) (p : Pulse) (l : Link) : Client :=
  { c with pulse := some p, connections := { c.connections with held := some { k with link := l } } }

def check (c : Client) (now : Nat) : Client :=
  match c.pulse, c.connections.held with
  | some p, some k =>
    if p.stopped = false ∧ 0 < p.interval ∧ p.next ≤ now then
      c.withPulse k (p.check c.lastSnapshot k.link).1 ((p.check c.lastSnapshot k.link).2.settle p.next)
    else c
  | _, _ => c

end Client

namespace Timeline

def moment (t : Timeline) : Moment → Timeline
  | .happens x _ => t.step x
  | .wait ms =>
    let until_ := t.now + t.client.lull t.now ms
    ⟨t.client.rest t.now until_, until_⟩
  | .check => { t with client := t.client.check t.now }

def moments (t : Timeline) (ms : List Moment) : Timeline :=
  ms.foldl moment t

end Timeline

namespace Client

variable {c : Client}

/-- A check is made on the held channel, or there is none to be made. -/
theorem check_cases (c : Client) (now : Nat) :
    c.check now = c ∨ ∃ p k, c.pulse = some p ∧ c.connections.held = some k ∧ p.stopped = false ∧ p.next ≤ now ∧
      c.check now = c.withPulse k (p.check c.lastSnapshot k.link).1 ((p.check c.lastSnapshot k.link).2.settle p.next) := by
  unfold check
  split
  · rename_i p k hp hk
    split
    · rename_i hdue
      exact .inr ⟨p, k, hp, hk, hdue.1, hdue.2.2, rfl⟩
    · exact .inl rfl
  · exact .inl rfl

theorem tended_mapHeld {c' : Client} {f : Link → Link}
    (hf : ∀ l, (f l).target = l.target ∧ (l.Whole → (f l).Whole)) (hlobby : c'.lobby = c.lobby)
    (hinbound : c'.inbound = c.inbound) (hpulse : c'.pulse.isSome = c.pulse.isSome)
    (hstreams : c'.topics.closed = c.topics.closed) (hfeeds : c'.feeds = c.feeds) (hticks : c'.ticks = c.ticks)
    (hconnections : c'.connections = c.connections.mapHeld f) : c.Tended c' where
  lobby := hlobby
  inbound := hinbound
  pulse := hpulse
  streams := hstreams
  feeds := hfeeds
  room := fun h => hticks ▸ h
  past := by rw [hconnections]; rfl
  held := ⟨fun k => k.mapLink f, by rw [hconnections]; rfl, fun k => hf k.link⟩

theorem tended_rest (c : Client) (now until_ : Nat) : c.Tended (c.rest now until_) := by
  unfold rest
  split
  · refine tended_mapHeld (f := fun l => l.pass now until_) ?_ rfl rfl rfl rfl rfl rfl rfl
    exact fun l => Link.pass_keeps (P := fun l' => l'.target = l.target ∧ (l.Whole → l'.Whole)) (kept_turn l) now until_
      ⟨rfl, id⟩
  · exact tended_of_same rfl rfl rfl rfl rfl rfl id

theorem tended_check (c : Client) (now : Nat) : c.Tended (c.check now) := by
  rcases check_cases c now with hrest | ⟨p, k, hp, hk, -, -, hcheck⟩
  · rw [hrest]
    exact tended_of_same rfl rfl rfl rfl rfl rfl id
  · rw [hcheck]
    refine tended_mapHeld (f := fun l => (p.check c.lastSnapshot l).2.settle p.next) ?_ rfl rfl (by rw [hp]; rfl) rfl rfl rfl ?_
    · intro l
      apply Link.settle_keeps (P := fun l' => l'.target = l.target ∧ (l.Whole → l'.Whole)) (kept_turn l)
      have houtcome := p.checkOutcome c.lastSnapshot l
      generalize p.check c.lastSnapshot l = checked at houtcome
      cases houtcome with
      | skipped | refused => exact ⟨rfl, id⟩
      | sent => exact kept_send l l _ ⟨rfl, id⟩
    · rw [Connections.mapHeld, hk]
      rfl

end Client

theorem Pulse.next_le_check (p : Pulse) (lastSnapshot : Option Nat) (l : Link) :
    p.next ≤ (p.check lastSnapshot l).1.next := by
  rw [check_fst]
  cases p.beat lastSnapshot l.isOpen with
  | skipped | sent => exact Nat.le_add_right _ _
  | refused => exact Nat.le_refl _

namespace Client

variable {c : Client} {k : Connection} {p : Pulse} {l : Link}

theorem withPulse_self (hp : c.pulse = some p) (hk : c.connections.held = some k) : c.withPulse k p k.link = c := by
  rw [withPulse, ← hp, ← hk]

theorem pass_of_pulse {now until_ : Nat} (hp : (c.settle now).pulse = some p)
    (hk : (c.settle now).connections.held = some k) :
    c.pass now until_ = (c.settle now).withPulse k (p.run c.lastSnapshot k.link now until_).1
      (p.run c.lastSnapshot k.link now until_).2 := by
  have hlast : (c.settle now).lastSnapshot = c.lastSnapshot := rfl
  simp only [pass, hp, hk, withPulse, hlast]

theorem pass_of_no_pulse {now until_ : Nat} (hp : (c.settle now).pulse = none) :
    c.pass now until_ = c.settle now := by
  simp only [pass, hp]

theorem nextCheck?_withPulse :
    (c.withPulse k p l).nextCheck? = if p.stopped = false ∧ 0 < p.interval then some p.next else none := rfl

theorem check_withPulse {now : Nat} (hdue : p.stopped = false ∧ 0 < p.interval ∧ p.next ≤ now) :
    (c.withPulse k p l).check now =
      c.withPulse k (p.check c.lastSnapshot l).1 ((p.check c.lastSnapshot l).2.settle p.next) :=
  if_pos hdue

end Client

/-- A stretch of time with heartbeats is made up of waits and checks. -/
theorem moments_of_run {c : Client} {k : Connection} {p : Pulse} {l : Link} {now until_ : Nat} (huntil : now ≤ until_)
    (hahead : p.stopped = false ∧ 0 < p.interval → now ≤ p.next) :
    ∃ ms, Timeline.moments ⟨c.withPulse k p l, now⟩ ms =
      ⟨c.withPulse k (p.run c.lastSnapshot l now until_).1 (p.run c.lastSnapshot l now until_).2, until_⟩ := by
  -- the induction follows the checks
  induction p, l, now using Pulse.run.induct c.lastSnapshot until_ with
  | case1 p l now hdue checked hless =>
    rename_i ih
    have hnow : now ≤ p.next := hahead ⟨hdue.1, hdue.2.1⟩
    have hlater := p.next_le_check c.lastSnapshot (l.pass now p.next)
    obtain ⟨ms, hms⟩ := ih hdue.2.2 fun _ => hlater
    refine ⟨.wait (p.next - now) :: .check :: ms, ?_⟩
    have hlull : now + (c.withPulse k p l).lull now (p.next - now) = p.next := by
      rw [Client.lull, Client.nextCheck?_withPulse, if_pos ⟨hdue.1, hdue.2.1⟩]
      simp only [Nat.min_self]
      omega
    have hwait : Timeline.moment ⟨c.withPulse k p l, now⟩ (.wait (p.next - now)) =
        ⟨c.withPulse k p (l.pass now p.next), p.next⟩ := by
      simp only [Timeline.moment, hlull]
      rfl
    have hcheck := Client.check_withPulse (c := c) (k := k) (l := l.pass now p.next)
      ⟨hdue.1, hdue.2.1, Nat.le_refl p.next⟩
    rw [Pulse.run_of_due hdue, ← hms, Timeline.moments, List.foldl_cons, hwait, List.foldl_cons, Timeline.moment, hcheck]
    rfl
  | case2 p l now hrest =>
    refine ⟨[.wait (until_ - now)], ?_⟩
    have hlull : now + (c.withPulse k p l).lull now (until_ - now) = until_ := by
      rw [Client.lull, Client.nextCheck?_withPulse]
      split
      · rename_i next hnext
        split at hnext
        · rename_i hlive
          cases hnext
          have hlate : until_ < p.next := Nat.lt_of_not_le fun hdue => hrest ⟨hlive.1, hlive.2, hdue⟩
          omega
        · cases hnext
      · omega
    rw [Pulse.run_of_rest hrest, Timeline.moments, List.foldl_cons, Timeline.moment]
    simp only [hlull, List.foldl_nil]
    rfl

/-- What a client goes through as time passes are moments, if no check was missed before. -/
theorem Timeline.moments_of_pass {t : Timeline} (hsound : t.client.Sound)
    (hahead : ∀ next ∈ t.client.nextCheck?, t.now ≤ next) (ms : Nat) : ∃ ms', t.moments ms' = t.step (.pass ms) := by
  have hpass : t.step (.pass ms) = ⟨t.client.pass t.now (t.now + ms), t.now + ms⟩ := rfl
  have hsettled := hsound.of_tended (Client.tended_settle t.client t.now)
  cases hp : (t.client.settle t.now).pulse with
  | none =>
    refine ⟨[.happens .settle rfl, .wait ms], ?_⟩
    have hlull : (t.client.settle t.now).lull t.now ms = ms := by
      rw [Client.lull, Client.nextCheck?, hp]
      rfl
    have hrest (until_ : Nat) : (t.client.settle t.now).rest t.now until_ = t.client.settle t.now := by
      rw [Client.rest, hp]
      rfl
    have hwait : Timeline.moment ⟨t.client.settle t.now, t.now⟩ (.wait ms) = ⟨t.client.settle t.now, t.now + ms⟩ := by
      simp only [moment, hlull, hrest]
    rw [hpass, Client.pass_of_no_pulse hp]
    exact hwait
  | some p =>
    obtain ⟨k, hk⟩ := Option.isSome_iff_exists.mp (hsettled.pulse (by rw [hp]; rfl)).2
    have hnext : p.stopped = false ∧ 0 < p.interval → t.now ≤ p.next := by
      intro hlive
      apply hahead
      have hsame : t.client.pulse = some p := hp
      rw [Client.nextCheck?, hsame, Option.bind_some, if_pos hlive]
      rfl
    obtain ⟨ms', hms'⟩ := moments_of_run (c := t.client.settle t.now) (k := k) (l := k.link) (Nat.le_add_right t.now ms)
      hnext
    rw [Client.withPulse_self hp hk] at hms'
    refine ⟨.happens .settle rfl :: ms', ?_⟩
    rw [hpass, Client.pass_of_pulse hp hk]
    exact hms'

end PaddleLink
