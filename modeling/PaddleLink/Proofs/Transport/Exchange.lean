import PaddleLink.Proofs.Transport.Connect
import PaddleLink.Proofs.Transport.Openness

/-!
The channels of a client over time. Whatever the client, the servers and the loops do, at most one of all channels
accepts texts, and it is the one that is held.
-/

namespace PaddleLink

namespace Connection

/-- What may become of a connection without a new one being made: it stays what it was opened for, and it does not
open again. -/
structure Stays (k k' : Connection) : Prop where
  url : k'.url = k.url
  target : k'.link.target = k.link.target
  shut : k'.link.isOpen = true → k.link.isOpen = true

variable (k : Connection) (now : Nat)

theorem stays_deliver (a : Arrival) : k.Stays (k.deliver now a) :=
  ⟨rfl, rfl, id⟩

theorem stays_push (text : String) : k.Stays (k.push now text) where
  url := by unfold push; split <;> rfl
  target := congrArg Voice.target (k.voice_push now text)
  shut := isOpen_push

theorem stays_hangUp : k.Stays (k.hangUp now) where
  url := by unfold hangUp; split <;> rfl
  target := congrArg Voice.target (k.voice_hangUp now)
  shut := isOpen_hangUp

theorem stays_dropServer : k.Stays (k.dropServer now) where
  url := (k.stays_hangUp now).url
  target := (k.stays_hangUp now).target
  shut := (k.stays_hangUp now).shut

theorem stays_send (text : String) : k.Stays (k.mapLink fun l => l.send text) := by
  have hkept : (k.link.send text).target = k.link.target ∧
      ((k.link.send text).isOpen = true → k.link.isOpen = true) := by
    unfold Link.send
    split <;> exact ⟨rfl, id⟩
  exact ⟨rfl, hkept.1, hkept.2⟩

theorem stays_turn : k.Stays (k.mapLink fun l => l.turn now) :=
  ⟨rfl, congrArg Voice.target (Link.voice_turn k.link now), Link.isOpen_of_turn⟩

theorem stays_settle : k.Stays (k.mapLink fun l => l.settle now) :=
  ⟨rfl, congrArg Voice.target (Link.voice_settle k.link now), Link.isOpen_of_settle⟩

theorem stays_pass (until_ : Nat) : k.Stays (k.mapLink fun l => l.pass now until_) :=
  ⟨rfl, congrArg Voice.target (Link.voice_pass k.link now until_), Link.isOpen_of_pass⟩

end Connection

namespace Connections

def connectBy (c : Connections) (now : Nat) (listens : Bool) (t : Target) (h : Handshake) : Attempt :=
  if c.isOpen ∧ c.held.map (fun k => k.link.target) = some t then ⟨.ok .alreadyOpen, 0, c⟩
  else
    match t.url c.base with
    | .error e => ⟨.error e, 0, c.close⟩
    | .ok url => c.close.afterHandshake now listens url t h

theorem connect_eq (c : Connections) (now : Nat) (server : Server) (t : Target) :
    c.connect now server t = c.connectBy now server.listens t (establish c.policy server.welcome) :=
  rfl

def Has (c : Connections) (t : Target) : Prop :=
  ∃ k, c.held = some k ∧ k.link.isOpen = true ∧ k.link.target = t

variable {c : Connections} {now : Nat} {listens : Bool} {t : Target} {h : Handshake}

theorem has_iff : c.Has t ↔ c.isOpen = true ∧ c.held.map (fun k => k.link.target) = some t := by
  constructor
  · rintro ⟨k, hk, hopen, htarget⟩
    rw [Connections.isOpen, hk]
    exact ⟨hopen, congrArg some htarget⟩
  · rintro ⟨hopen, htarget⟩
    obtain ⟨k, hk, hopen⟩ := held_of_isOpen hopen
    rw [hk] at htarget
    exact ⟨k, hk, hopen, Option.some.inj htarget⟩

theorem connectBy_of_has (hc : c.Has t) : c.connectBy now listens t h = ⟨.ok .alreadyOpen, 0, c⟩ :=
  if_pos (has_iff.mp hc)

theorem close_of_unheld (hheld : c.held = none) : c.close = c := by
  obtain ⟨base, policy, past, held⟩ := c
  cases hheld
  simp [close]

/-- Whatever else was held is closed before anything is tried. -/
theorem connectBy_of_not_has (hc : ¬c.Has t) : c.connectBy now listens t h = c.close.connectBy now listens t h := by
  have hclosed : ¬c.close.Has t := by
    rintro ⟨k, hk, -⟩
    cases hk
  have hbase : c.close.base = c.base := rfl
  rw [has_iff] at hc hclosed
  rw [connectBy, if_neg hc, connectBy, if_neg hclosed, close_of_unheld (c := c.close) rfl, hbase]

inductive Opening (c : Connections) (t : Target) (h : Handshake) (a : Attempt) : Prop where
  | opened (url : Url) (k : Connection) (address : t.url c.base = .ok url) (handshake : h.result = .ok ())
    (result : a.result = .ok .opened) (held : a.connections.held = some k) (isOpen : k.link.isOpen = true)
    (target : k.link.target = t) (made : ∃ listens since, k = .fresh url t listens since)
    (past : a.connections.past.length = c.past.length)
  | failed (e : TransportError) (cause : t.url c.base = .error e ∨ h.result = .error e)
    (result : a.result = .error e) (held : a.connections.held = none)

theorem url_fresh (url : Url) (t : Target) (listens : Bool) (now : Nat) :
    (Connection.fresh url t listens now).url = url := by
  unfold Connection.fresh
  split <;> rfl

theorem opening (hheld : c.held = none) (now : Nat) (listens : Bool) (t : Target) (h : Handshake) :
    c.Opening t h (c.connectBy now listens t h) := by
  have hnot : ¬c.Has t := by
    rintro ⟨k, hk, -⟩
    rw [hheld] at hk
    cases hk
  rw [has_iff] at hnot
  rw [connectBy, if_neg hnot, close_of_unheld hheld]
  cases haddress : t.url c.base with
  | error e => exact .failed e (.inl haddress) rfl hheld
  | ok url =>
    have hwaited : (if h.elapsed = 0 then c else c.settle now).held = none ∧
        (if h.elapsed = 0 then c else c.settle now).past.length = c.past.length := by
      split
      · exact ⟨hheld, rfl⟩
      · exact ⟨by simp [settle, mapAll, hheld], List.length_map _⟩
    unfold afterHandshake
    simp only
    cases hresult : h.result with
    | ok _ =>
      exact .opened url _ haddress hresult rfl rfl (isOpen_fresh url t listens _)
        (congrArg Voice.target (voice_fresh url t listens _)) ⟨listens, _, rfl⟩ hwaited.2
    | error e =>
      refine .failed e (.inr hresult) rfl ?_
      simp only
      split <;> exact hwaited.1

/-- No channel but the one that is held is open, and that one leads where its identity says. -/
structure Tidy (c : Connections) : Prop where
  past : ∀ k ∈ c.past, k.link.isOpen = false
  address : ∀ k, c.held = some k → k.link.target.url c.base = .ok k.url

theorem tidy_initial (base : Url) (policy : RetryPolicy) : (initial base policy).Tidy where
  past := by
    intro k hk
    cases hk
  address := by
    intro k hk
    cases hk

theorem Tidy.isOpen_past (hc : c.Tidy) {f : Connection → Connection} (hf : ∀ k : Connection, k.Stays (f k)) :
    ∀ k ∈ c.past, (f k).link.isOpen = false := by
  intro k hk
  have hshut := hc.past k hk
  exact Bool.eq_false_iff.mpr fun hopen => Bool.eq_false_iff.mp hshut ((hf k).shut hopen)

theorem Tidy.address_map (hc : c.Tidy) {f : Connection → Connection} (hf : ∀ k : Connection, k.Stays (f k)) :
    ∀ k', c.held.map f = some k' → k'.link.target.url c.base = .ok k'.url := by
  intro k' hk'
  obtain ⟨k, hk, rfl⟩ := Option.map_eq_some_iff.mp hk'
  rw [(hf k).target, (hf k).url]
  exact hc.address k hk

theorem Tidy.mapAll (hc : c.Tidy) {f : Connection → Connection} (hf : ∀ k : Connection, k.Stays (f k)) : (c.mapAll f).Tidy where
  past := List.forall_mem_map.mpr (hc.isOpen_past hf)
  address := hc.address_map hf

theorem Tidy.modify (hc : c.Tidy) (i : Nat) {f : Connection → Connection} (hf : ∀ k : Connection, k.Stays (f k)) :
    (c.modify i f).Tidy := by
  unfold Connections.modify
  split
  · refine ⟨fun k hk => ?_, hc.address⟩
    obtain ⟨j, hj, rfl⟩ := List.mem_iff_getElem.mp hk
    have hj' : j < c.past.length := by simpa using hj
    rw [List.getElem_modify]
    split
    · exact hc.isOpen_past hf _ (List.getElem_mem hj')
    · exact hc.past _ (List.getElem_mem hj')
  · split
    · exact ⟨hc.past, hc.address_map hf⟩
    · exact hc

theorem Tidy.close (hc : c.Tidy) : c.close.Tidy where
  past := by
    intro k hk
    rcases List.mem_append.mp hk with hpast | hheld
    · exact hc.past k hpast
    · obtain ⟨k', -, rfl⟩ := Option.map_eq_some_iff.mp (Option.mem_toList.mp hheld)
      exact Link.isOpen_close k'.link
  address := by
    intro k hk
    cases hk

theorem Tidy.settle (hc : c.Tidy) (now : Nat) : (c.settle now).Tidy :=
  hc.mapAll fun k => k.stays_settle now

theorem Tidy.afterHandshake (hc : c.Tidy) {url : Url} (haddress : t.url c.base = .ok url) :
    (c.afterHandshake now listens url t h).connections.Tidy := by
  have hwaited : (if h.elapsed = 0 then c else c.settle now).Tidy ∧
      (if h.elapsed = 0 then c else c.settle now).base = c.base := by
    split
    · exact ⟨hc, rfl⟩
    · exact ⟨hc.settle now, rfl⟩
  unfold Connections.afterHandshake
  simp only
  split
  · refine ⟨hwaited.1.past, fun k hk => ?_⟩
    cases hk
    have htarget : (Connection.fresh url t listens (now + h.elapsed)).link.target = t :=
      congrArg Voice.target (voice_fresh url t listens _)
    rw [htarget, url_fresh]
    exact (congrArg t.url hwaited.2).trans haddress
  · simp only
    split
    · refine ⟨fun k hk => ?_, hwaited.1.address⟩
      rcases List.mem_append.mp hk with hpast | hnew
      · exact hwaited.1.past k hpast
      · rw [List.mem_singleton.mp hnew]
        simp [Connection.abandon, Link.isOpen]
    · exact hwaited.1

theorem Tidy.connectBy (hc : c.Tidy) : (c.connectBy now listens t h).connections.Tidy := by
  unfold Connections.connectBy
  split
  · exact hc
  · split
    · exact hc.close
    · rename_i url haddress
      exact hc.close.afterHandshake haddress

theorem Tidy.isOpen_close (hc : c.Tidy) : ∀ k ∈ c.close.all, k.link.isOpen = false := by
  intro k hk
  have hall : c.close.all = c.close.past := List.append_nil _
  exact hc.close.past k (hall ▸ hk)

theorem Tidy.eq_held (hc : c.Tidy) {i : Nat} {k : Connection} (hk : c.all[i]? = some k) (hopen : k.link.isOpen = true) :
    i = c.past.length ∧ c.held = some k := by
  rw [all, List.getElem?_append] at hk
  split at hk
  · have hshut := hc.past k (List.mem_of_getElem? hk)
    rw [hopen] at hshut
    cases hshut
  · cases hheld : c.held with
    | none => simp [hheld] at hk
    | some k' =>
      rw [hheld, Option.toList_some, List.getElem?_singleton] at hk
      split at hk
      · exact ⟨by omega, hk⟩
      · cases hk

/-- The identity of a held channel has had an address before, so only the handshake can stand in the way of a new
channel in place of one that is over. -/
theorem Tidy.reopens (hc : c.Tidy) {k : Connection} (hk : c.held = some k) (hshut : k.link.isOpen = false)
    (hready : h.result = .ok ()) :
    let a := c.connectBy now listens k.link.target h
    a.result = .ok .opened ∧ a.connections.Has k.link.target ∧ a.connections.all.length = c.all.length + 1 := by
  intro a
  have hnot : ¬c.Has k.link.target := by
    rintro ⟨k', hk', hopen, -⟩
    obtain rfl := Option.some.inj (hk.symm.trans hk')
    rw [hshut] at hopen
    cases hopen
  have hclosed : a = c.close.connectBy now listens k.link.target h := connectBy_of_not_has hnot
  rw [hclosed]
  cases opening (c := c.close) rfl now listens k.link.target h with
  | opened url k' address handshake result held isOpen target made past =>
    refine ⟨result, ⟨k', held, isOpen, target⟩, ?_⟩
    rw [all, held, List.length_append, past, all, hk, Connections.close, hk]
    simp
  | failed e cause result held =>
    rcases cause with haddress | hrefused
    · have hbefore : k.link.target.url c.close.base = .ok k.url := hc.address k hk
      rw [hbefore] at haddress
      cases haddress
    · rw [hready] at hrefused
      cases hrefused

theorem held_modify (c : Connections) (f : Connection → Connection) :
    (c.modify c.past.length f).held = c.held.map f := by
  rw [modify, if_neg (Nat.lt_irrefl _), if_pos rfl]

end Connections

structure Exchange where
  connections : Connections
  now : Nat

namespace Exchange

/-- Something that happens to the channels of a client. They are counted from the oldest one. -/
inductive Move where
  | connect (listens : Bool) (t : Target) (h : Handshake)
  | close
  | send (i : Nat) (text : String)
  | read (i : Nat)
  | ignore (i : Nat)
  | push (i : Nat) (text : String)
  | hangUp (i : Nat)
  | dropServer (i : Nat)
  | arrive (i : Nat) (a : Arrival)
  | turn (i : Nat)
  | settle
  | pass (ms : Nat)

def begin (base : Url) (policy : RetryPolicy) : Exchange :=
  ⟨.initial base policy, 0⟩

def on (r : Exchange) (i : Nat) (f : Connection → Connection) : Exchange :=
  { r with connections := r.connections.modify i f }

def step (r : Exchange) : Move → Exchange
  | .connect listens t h =>
    let a := r.connections.connectBy r.now listens t h
    ⟨a.connections, r.now + a.elapsed⟩
  | .close => { r with connections := r.connections.close }
  | .send i text => r.on i fun k => k.mapLink fun l => l.send text
  | .read i => r.on i fun k => k.mapLink Link.clearNotices
  | .ignore i => r.on i fun k => k.mapLink Link.stopListening
  | .push i text => r.on i fun k => k.push r.now text
  | .hangUp i => r.on i fun k => k.hangUp r.now
  | .dropServer i => r.on i fun k => k.dropServer r.now
  | .arrive i a => r.on i fun k => k.deliver r.now a
  | .turn i => r.on i fun k => k.mapLink fun l => l.turn r.now
  | .settle => { r with connections := r.connections.settle r.now }
  | .pass ms =>
    ⟨r.connections.mapAll fun k => k.mapLink fun l => l.pass r.now (r.now + ms), r.now + ms⟩

def run (r : Exchange) (xs : List Move) : Exchange :=
  xs.foldl step r

variable {r : Exchange}

theorem tidy_step (h : r.connections.Tidy) (x : Move) : (r.step x).connections.Tidy := by
  cases x with
  | connect listens t h' => exact h.connectBy
  | close => exact h.close
  | send i text => exact h.modify i fun k => k.stays_send text
  | read i | ignore i => exact h.modify i fun _ => ⟨rfl, rfl, id⟩
  | push i text => exact h.modify i fun k => k.stays_push r.now text
  | hangUp i => exact h.modify i fun k => k.stays_hangUp r.now
  | dropServer i => exact h.modify i fun k => k.stays_dropServer r.now
  | arrive i a => exact h.modify i fun k => k.stays_deliver r.now a
  | turn i => exact h.modify i fun k => k.stays_turn r.now
  | settle => exact h.settle r.now
  | pass ms => exact h.mapAll fun k => k.stays_pass r.now (r.now + ms)

theorem tidy_run (h : r.connections.Tidy) (xs : List Move) : (r.run xs).connections.Tidy := by
  induction xs generalizing r with
  | nil => exact h
  | cons x xs ih => exact ih (tidy_step h x)

/-- At every time at most one of all channels that were ever opened is open, and it is the held one. A connect for
its identity changes nothing, whatever the server would do. Any other connect closes it first and leaves no channel
when it fails, and once its loop has taken note of its end, a connect for the same identity opens a new one. -/
theorem one_channel_open (base : Url) (policy : RetryPolicy) (xs : List Move) :
    let r := (begin base policy).run xs
    let c := r.connections
    (∀ server t, c.connect r.now server t = c.connectBy r.now server.listens t (establish c.policy server.welcome)) ∧
    (∀ i k, c.all[i]? = some k → k.link.isOpen = true → i = c.past.length ∧ c.held = some k) ∧
    (∀ t, c.Has t → ∀ listens h, c.connectBy r.now listens t h = ⟨.ok .alreadyOpen, 0, c⟩) ∧
    (∀ t, ¬c.Has t → ∀ listens h, let a := c.connectBy r.now listens t h
      a = c.close.connectBy r.now listens t h ∧ (∀ k ∈ c.close.all, k.link.isOpen = false) ∧
        c.close.Opening t h a) ∧
    (∀ k, c.held = some k → k.link.isOpen = false → ∀ listens h, h.result = .ok () →
      let a := c.connectBy r.now listens k.link.target h
      a.result = .ok .opened ∧ a.connections.Has k.link.target ∧
        a.connections.all.length = c.all.length + 1) ∧
    ∀ k ending, c.held = some k → k.link.end? r.now = some ending →
      ∃ k', (r.step (.turn c.past.length)).connections.held = some k' ∧ k'.link.isOpen = false ∧
        k'.link.target = k.link.target := by
  intro r c
  have htidy : c.Tidy := tidy_run (Connections.tidy_initial base policy) xs
  refine ⟨fun server t => c.connect_eq r.now server t, fun i k => htidy.eq_held,
    fun t hc listens h => Connections.connectBy_of_has hc, ?_, fun k hk hshut listens h => htidy.reopens hk hshut, ?_⟩
  · intro t hc listens h a
    have hclosed : a = c.close.connectBy r.now listens t h := Connections.connectBy_of_not_has hc
    exact ⟨hclosed, htidy.isOpen_close, hclosed ▸ Connections.opening rfl r.now listens t h⟩
  · intro k ending hk hend
    have hheld : (r.step (.turn c.past.length)).connections.held = some (k.mapLink fun l => l.turn r.now) :=
      (c.held_modify _).trans (congrArg _ hk)
    exact ⟨_, hheld, Link.isOpen_turn_of_end? hend, congrArg Voice.target (Link.voice_turn k.link r.now)⟩

/-- The second connect finds a channel, and the third one, behind the end of that channel, does not. -/
example :
    let base : Url := ⟨['w', 's'], some ⟨[], [], .domain ['h'], none⟩, .segments false [[]], none, none⟩
    let t : Target := ⟨⟨"s"⟩, ⟨"a"⟩, .host⟩
    let ready : Handshake := ⟨.ok (), 0, true⟩
    let r := (begin base .standard).run
      [.connect true t ready, .connect true t ready, .hangUp 0, .turn 0, .connect true t ready]
    r.connections.all.map (fun k => k.link.isOpen) = [false, true] := by
  decide

end Exchange

end PaddleLink
