import PaddleLink.Proofs.Transport.Turn

/-!
The traffic of a channel. Frames, failures, texts to send, the client's close and the turns of the loop may
come in any order. What the client is told and what the socket is given are compared with what came in and
what was accepted.
-/

namespace PaddleLink

/-- Something that happens to a channel. What comes in may have a time before which the loop does not see
it. -/
inductive LinkEvent where
  | frame (time : Nat) (text : String)
  | failure (time : Nat) (e : TransportError)
  | hangUp (time : Nat)
  | fault (e : Option TransportError)
  | send (text : String)
  | close
  | read
  | turn (now : Nat)

structure Traffic where
  link : Link
  arrived : List Arrival
  accepted : List String
  read : List Notice
  ending : Option LinkEnd

namespace Traffic

def begin (target : Target) (closeDelay : Nat) : Traffic :=
  ⟨.fresh target { Socket.fresh with closeDelay := closeDelay }, [], [], [], none⟩

def told (r : Traffic) : List Notice :=
  r.read ++ r.link.notices

def arrive (r : Traffic) (time : Nat) (a : Arrival) : Traffic :=
  { r with
    link := { r.link with socket := { r.link.socket with arrivals := r.link.socket.arrivals ++ [(time, a)] } }
    arrived := r.arrived ++ [a] }

def step (r : Traffic) : LinkEvent → Traffic
  | .frame time text => r.arrive time (.frame text)
  | .failure time e => r.arrive time (.failure e)
  | .hangUp time => r.arrive time .hangUp
  | .fault e => { r with link := { r.link with socket := { r.link.socket with sendFault := e } } }
  | .send text =>
    { r with link := r.link.send text, accepted := r.accepted ++ if r.link.isOpen then [text] else [] }
  | .close => { r with link := r.link.close }
  | .read => { r with link := r.link.clearNotices, read := r.told }
  | .turn now => { r with link := r.link.turn now, ending := r.ending.or (r.link.end? now) }

def run (r : Traffic) (xs : List LinkEvent) : Traffic :=
  xs.foldl step r

/-- What the loop has taken before it ended: frames, and what has ended it. -/
def Taken (ending : Option LinkEnd) (taken : List Arrival) : Prop :=
  ∃ texts : List String,
    match ending with
    | none | some .asked => taken = texts.map Arrival.frame
    | some .hungUp => taken = texts.map Arrival.frame ++ [.hangUp]
    | some (.failed e) => taken = texts.map Arrival.frame ∨ taken = texts.map Arrival.frame ++ [.failure e]

/-- The books of a channel balance. -/
structure Balanced (r : Traffic) : Prop where
  heard : r.link.heard = true
  noCollapse : Arrival.collapse ∉ r.arrived
  /-- What has come in is what the loop has taken, in order, and what still waits; of the former the client has been
  told. -/
  inbound : ∃ taken, r.arrived = taken ++ r.link.socket.arrivals.map Prod.snd ∧ Taken r.ending taken ∧
    r.told = taken.filterMap Arrival.batch? ++ LinkEnd.notices r.ending
  /-- What has been accepted is what the socket has been given, in order, and what still waits. -/
  outbound : r.accepted = r.link.sent ++ r.link.outbox
  drained : r.ending = some .hungUp → r.link.outbox = []
  running : r.ending = none ↔ r.link.phase = .running
  asked : r.ending = some .asked → r.link.closeAsked = true
  closed : r.ending = some .asked ↔ r.link.hasClosedSocket = true

theorem balanced_begin (target : Target) (closeDelay : Nat) : (begin target closeDelay).Balanced where
  heard := rfl
  noCollapse := by simp [begin]
  inbound := ⟨[], rfl, ⟨[], rfl⟩, rfl⟩
  outbound := rfl
  drained := by simp [begin]
  running := by simp [begin, Link.fresh]
  asked := by simp [begin]
  closed := by simp [begin, Link.hasClosedSocket, Link.fresh, Socket.fresh]

theorem balanced_arrive {r : Traffic} (h : r.Balanced) (time : Nat) {a : Arrival} (ha : a ≠ .collapse) :
    (r.arrive time a).Balanced := by
  obtain ⟨taken, hsplit, htaken, htold⟩ := h.inbound
  have hinbound : ∃ taken, r.arrived ++ [a] = taken ++ (r.link.socket.arrivals ++ [(time, a)]).map Prod.snd ∧
      Taken r.ending taken ∧ r.told = taken.filterMap Arrival.batch? ++ LinkEnd.notices r.ending :=
    ⟨taken, by simp [hsplit], htaken, htold⟩
  exact { h with
    noCollapse := by simpa [arrive] using ⟨h.noCollapse, fun he => ha he.symm⟩
    inbound := hinbound }

theorem Taken.append_frame {taken : List Arrival} (h : Taken none taken) (text : String) :
    Taken none (taken ++ [.frame text]) := by
  obtain ⟨texts, rfl⟩ := h
  exact ⟨texts ++ [text], by simp⟩

theorem receive_eq (l : Link) (hl : l.heard = true) (text : String) :
    l.receive text = { l with notices := l.notices ++ (Arrival.frame text).batch?.toList } := by
  cases hr : readFrame text with
  | error e => simp [Link.receive, Arrival.batch?, hr]
  | ok events =>
    cases events with
    | nil => simp [Link.receive, Arrival.batch?, hr]
    | cons e es => simp [Link.receive, Arrival.batch?, hr, Link.tell, hl]

theorem lose_eq (l : Link) (hl : l.heard = true) (reason : Option String) :
    l.lose reason = { l with notices := l.notices ++ [.closed reason], phase := .ended } := by
  simp [Link.lose, Link.tell, hl]

theorem sent_append_send (l : Link) (now : Nat) (text : String) :
    (l.recordCall now (.send text)).sent = l.sent ++ [text] := by
  simp [Link.sent, Link.recordCall]

theorem sent_append_close (l : Link) (now : Nat) : (l.recordCall now .close).sent = l.sent := by
  simp [Link.sent, Link.recordCall]

theorem hasClosedSocket_append_send (l : Link) (now : Nat) (text : String) :
    (l.recordCall now (.send text)).hasClosedSocket = l.hasClosedSocket := by
  simp [Link.hasClosedSocket, Link.recordCall]

/-- A loop that runs has not ended, has not closed its socket, and has told of frames only. -/
theorem Balanced.of_running {r : Traffic} (h : r.Balanced) (hp : r.link.phase = .running) :
    r.ending = none ∧ r.link.hasClosedSocket = false ∧
      ∃ taken, r.arrived = taken ++ r.link.socket.arrivals.map Prod.snd ∧ Taken none taken ∧
        r.told = taken.filterMap Arrival.batch? := by
  have hn := h.running.mpr hp
  have hs : r.link.hasClosedSocket = false := by
    rw [Bool.eq_false_iff]
    intro hc
    have := h.closed.mpr hc
    rw [hn] at this
    cases this
  refine ⟨hn, hs, ?_⟩
  simpa [hn, LinkEnd.notices] using h.inbound

/-- Sending a text moves it from those that wait to those that the socket was given. -/
theorem balanced_send {r : Traffic} (h : r.Balanced) (now : Nat) {text : String} {outbox : List String}
    (hp : r.link.phase = .running) (ho : r.link.outbox = text :: outbox) :
    Balanced { r with link := Link.recordCall { r.link with outbox := outbox } now (.send text) } := by
  obtain ⟨hn, hs, -⟩ := h.of_running hp
  exact { h with
    outbound := by
      rw [sent_append_send, h.outbound, ho]
      simp [Link.sent, Link.recordCall]
    drained := by simp [hn]
    closed := by
      rw [hasClosedSocket_append_send]
      exact h.closed }

/-- A failure ends the loop, with whatever has been taken. -/
theorem balanced_lose {r : Traffic} (h : r.Balanced) (hp : r.link.phase = .running) (e : TransportError) :
    Balanced { r with link := r.link.lose (some e.message), ending := some (.failed e) } := by
  obtain ⟨hn, hs, taken, hsplit, ⟨texts, htexts⟩, htold⟩ := h.of_running hp
  have hopen : r.link.hasClosedSocket ≠ true := by simp [hs]
  rw [lose_eq _ h.heard]
  exact
    { heard := h.heard
      noCollapse := h.noCollapse
      inbound := ⟨taken, hsplit, ⟨texts, .inl htexts⟩, by
        rw [← htold]
        simp [told, LinkEnd.notices]⟩
      outbound := h.outbound
      drained := by simp
      running := by simp
      asked := by simp
      closed := ⟨fun hc => (by cases hc), fun hc => absurd hc hopen⟩ }

/-- What is taken from the socket is told, and may end the loop. -/
theorem balanced_accept {r : Traffic} (h : r.Balanced) {t : Nat} {a : Arrival} {arrivals : List (Nat × Arrival)}
    (hp : r.link.phase = .running) (ho : r.link.outbox = [])
    (hi : r.link.socket.arrivals = (t, a) :: arrivals) :
    Balanced { r with
      link := Link.accept { r.link with socket := { r.link.socket with arrivals := arrivals } } a
      ending := a.end? } := by
  obtain ⟨hn, hs, taken, hsplit, ⟨texts, htexts⟩, htold⟩ := h.of_running hp
  have hsplit' : r.arrived = (taken ++ [a]) ++ arrivals.map Prod.snd := by simp [hsplit, hi]
  have hopen : r.link.hasClosedSocket ≠ true := by simp [hs]
  have hheard : ({ r.link with socket := { r.link.socket with arrivals := arrivals } } : Link).heard = true :=
    h.heard
  cases a with
  | collapse => exact absurd (by simp [hsplit']) h.noCollapse
  | frame text =>
    simp only [Link.accept, Arrival.end?]
    rw [receive_eq _ hheard]
    exact
      { heard := h.heard
        noCollapse := h.noCollapse
        inbound := ⟨taken ++ [.frame text], hsplit', Taken.append_frame ⟨texts, htexts⟩ text, by
          rw [List.filterMap_append, ← htold]
          cases hb : (Arrival.frame text).batch? <;> simp [told, LinkEnd.notices, hb]⟩
        outbound := h.outbound
        drained := by simp
        running := by simp [hp]
        asked := by simp
        closed := ⟨fun hc => (by cases hc), fun hc => absurd hc hopen⟩ }
  | failure e =>
    simp only [Link.accept, Arrival.end?]
    rw [lose_eq _ hheard]
    exact
      { heard := h.heard
        noCollapse := h.noCollapse
        inbound := ⟨taken ++ [.failure e], hsplit', ⟨texts, .inr (by rw [htexts])⟩, by
          rw [List.filterMap_append, ← htold]
          simp [told, LinkEnd.notices, Arrival.batch?]⟩
        outbound := h.outbound
        drained := by simp
        running := by simp
        asked := by simp
        closed := ⟨fun hc => (by cases hc), fun hc => absurd hc hopen⟩ }
  | hangUp =>
    simp only [Link.accept, Arrival.end?]
    rw [lose_eq _ hheard]
    exact
      { heard := h.heard
        noCollapse := h.noCollapse
        inbound := ⟨taken ++ [.hangUp], hsplit', ⟨texts, by rw [htexts]⟩, by
          rw [List.filterMap_append, ← htold]
          simp [told, LinkEnd.notices, Arrival.batch?]⟩
        outbound := h.outbound
        drained := fun _ => ho
        running := by simp
        asked := by simp
        closed := ⟨fun hc => (by cases hc), fun hc => absurd hc hopen⟩ }

theorem balanced_turn {r : Traffic} (h : r.Balanced) (now : Nat) : (r.step (.turn now)).Balanced := by
  change Balanced { r with link := r.link.turn now, ending := r.ending.or (r.link.end? now) }
  have hturn := r.link.turnOutcome now
  revert hturn
  generalize r.link.turn now = l, r.link.end? now = ending
  intro hturn
  cases hturn with
  | rest => simpa using h
  | finish t hp =>
    -- the books were closed when the loop asked the socket to close; this turn adds nothing
    have hdone : r.ending ≠ none := fun hn => by simp [h.running.mp hn] at hp
    rw [Option.or_none]
    exact { h with running := by simpa using hdone }
  | close hp ha =>
    obtain ⟨hn, -, taken, hsplit, ⟨texts, htexts⟩, htold⟩ := h.of_running hp
    rw [hn, Option.none_or]
    exact
      { heard := h.heard
        noCollapse := h.noCollapse
        inbound := ⟨taken, hsplit, ⟨texts, htexts⟩, by
          rw [LinkEnd.notices, List.append_nil, ← htold]
          rfl⟩
        outbound := h.outbound.trans (by rw [← sent_append_close r.link now]; rfl)
        drained := by simp
        running := by
          simp only [Link.closingPhase]
          split <;> simp
        asked := fun _ => ha
        closed := by simp [Link.hasClosedSocket, Link.recordCall] }
  | send text outbox hp ha ho hf =>
    rw [Option.or_none]
    exact balanced_send h now hp ho
  | sendFailed text outbox e hp ha ho hf =>
    rw [(h.of_running hp).1, Option.none_or]
    exact balanced_lose (balanced_send h now hp ho) hp e
  | accept t a arrivals hp ha ho hi ht =>
    rw [(h.of_running hp).1, Option.none_or]
    exact balanced_accept h hp ho hi

theorem balanced_queue {r : Traffic} (h : r.Balanced) (text : String) : (r.step (.send text)).Balanced := by
  by_cases ho : r.link.isOpen = true
  · have hp : r.link.phase = .running := by
      simp only [Link.isOpen, Bool.and_eq_true, decide_eq_true_eq] at ho
      exact ho.2
    have hn := h.running.mpr hp
    have hstep : r.step (.send text) =
        { r with
          link := { r.link with outbox := r.link.outbox ++ [text] }
          accepted := r.accepted ++ [text] } := by
      simp [step, Link.send, ho]
    rw [hstep]
    exact { h with
      outbound := by
        rw [h.outbound, List.append_assoc]
        rfl
      drained := by simp [hn] }
  · have hstep : r.step (.send text) = r := by
      simp [step, Link.send, ho]
    rw [hstep]
    exact h

theorem balanced_step {r : Traffic} (h : r.Balanced) (x : LinkEvent) : (r.step x).Balanced := by
  cases x with
  | frame time text => exact balanced_arrive h time (by simp)
  | failure time e => exact balanced_arrive h time (by simp)
  | hangUp time => exact balanced_arrive h time (by simp)
  | fault e => exact { h with }
  | send text => exact balanced_queue h text
  | close => exact { h with asked := fun _ => rfl }
  | read =>
    have htold : (r.step .read).told = r.told := List.append_nil _
    exact { h with inbound := htold ▸ h.inbound }
  | turn now => exact balanced_turn h now

theorem balanced_run {r : Traffic} (h : r.Balanced) (xs : List LinkEvent) : (r.run xs).Balanced := by
  -- the history grows, so the books are kept for any traffic to start from
  induction xs generalizing r with
  | nil => exact h
  | cons x xs ih => exact ih (balanced_step h x)

/-- On a channel that is not open nothing is accepted, sent or told. -/
theorem step_of_not_isOpen {r : Traffic} (h : r.link.isOpen = false) (x : LinkEvent) :
    (r.step x).link.isOpen = false ∧ (r.step x).accepted = r.accepted ∧
      (r.step x).link.sent = r.link.sent ∧ (r.step x).told = r.told := by
  cases x with
  | frame | failure | hangUp | fault => exact ⟨h, rfl, rfl, rfl⟩
  | send text =>
    have hstep : r.step (.send text) = r := by simp [step, Link.send, h]
    rw [hstep]
    exact ⟨h, rfl, rfl, rfl⟩
  | close => exact ⟨by simp [step, Link.close, Link.isOpen], rfl, rfl, rfl⟩
  | read => exact ⟨h, rfl, rfl, List.append_nil _⟩
  | turn now =>
    have hturn := r.link.turnOutcome now
    change (r.link.turn now).isOpen = false ∧ r.accepted = r.accepted ∧ (r.link.turn now).sent = r.link.sent ∧
      r.read ++ (r.link.turn now).notices = r.read ++ r.link.notices
    revert hturn
    generalize r.link.turn now = l, r.link.end? now = ending
    intro hturn
    have hopen (hp : r.link.phase = .running) (ha : r.link.closeAsked = false) : False := by
      simp [Link.isOpen, hp, ha] at h
    cases hturn with
    | rest => exact ⟨h, rfl, rfl, rfl⟩
    | finish t hp => exact ⟨by simp [Link.isOpen], rfl, rfl, rfl⟩
    | close hp ha =>
      have hshut : r.link.closingPhase now ≠ .running := by
        unfold Link.closingPhase
        split <;> simp
      exact ⟨by simp [Link.isOpen, hshut], rfl, sent_append_close r.link now, rfl⟩
    | send text outbox hp ha => exact (hopen hp ha).elim
    | sendFailed text outbox e hp ha => exact (hopen hp ha).elim
    | accept t a arrivals hp ha => exact (hopen hp ha).elim

theorem run_of_not_isOpen {r : Traffic} (h : r.link.isOpen = false) (xs : List LinkEvent) :
    (r.run xs).link.isOpen = false ∧ (r.run xs).accepted = r.accepted ∧
      (r.run xs).link.sent = r.link.sent ∧ (r.run xs).told = r.told := by
  induction xs generalizing r with
  | nil => exact ⟨h, rfl, rfl, rfl⟩
  | cons x xs ih =>
    obtain ⟨hopen, haccepted, hsent, htold⟩ := step_of_not_isOpen h x
    obtain ⟨hopen', haccepted', hsent', htold'⟩ := ih hopen
    exact ⟨hopen', haccepted'.trans haccepted, hsent'.trans hsent, htold'.trans htold⟩

/-- That the channel is closed is told exactly when the loop has ended, not by the client. -/
theorem Balanced.closed_mem_told_iff {r : Traffic} (h : r.Balanced) :
    (∃ reason, Notice.closed reason ∈ r.told) ↔ r.link.phase ≠ .running ∧ r.link.hasClosedSocket = false := by
  obtain ⟨taken, -, -, htold⟩ := h.inbound
  have hbatch (reason : Option String) : Notice.closed reason ∉ taken.filterMap Arrival.batch? := by
    intro hmem
    obtain ⟨a, -, ha⟩ := List.mem_filterMap.mp hmem
    unfold Arrival.batch? at ha
    split at ha
    · split at ha <;> cases ha
    · cases ha
  rw [← Bool.not_eq_true, ← h.closed, Ne, ← h.running, htold]
  simp only [List.mem_append, hbatch, false_or]
  match r.ending with
  | none | some .asked => simp [LinkEnd.notices]
  | some .hungUp | some (.failed e) => simp [LinkEnd.notices]

/-- What the loop has taken are frames, up to what has ended it. -/
theorem Taken.frames {ending : Option LinkEnd} {taken : List Arrival} (h : Taken ending taken)
    (waiting : List Arrival) :
    ∃ (texts : List String) (later : List Arrival), taken ++ waiting = texts.map Arrival.frame ++ later ∧
      taken.filterMap Arrival.batch? = texts.filterMap (fun text => (Arrival.frame text).batch?) ∧
      (ending = some .hungUp → ∃ rest, later = .hangUp :: rest) := by
  obtain ⟨texts, htexts⟩ := h
  have hframes : (texts.map Arrival.frame).filterMap Arrival.batch? =
      texts.filterMap (fun text => (Arrival.frame text).batch?) := List.filterMap_map
  match ending, htexts with
  | none, htexts | some .asked, htexts | some (.failed e), .inl htexts =>
    subst htexts
    exact ⟨texts, waiting, rfl, hframes, by simp⟩
  | some .hungUp, htexts =>
    subst htexts
    refine ⟨texts, .hangUp :: waiting, List.append_assoc _ _ _, ?_, fun _ => ⟨waiting, rfl⟩⟩
    rw [List.filterMap_append, hframes]
    exact List.append_nil _
  | some (.failed e), .inr htexts =>
    subst htexts
    refine ⟨texts, .failure e :: waiting, List.append_assoc _ _ _, ?_, by simp⟩
    rw [List.filterMap_append, hframes]
    exact List.append_nil _

/-- Whatever happens to a channel, in whatever order: the client is told of the frames that came in first, each
that holds events once and in order, and then, unless it has asked for the end itself, that the channel is
closed. The socket is given the texts that were accepted first, once and in order. A channel that the
other side has closed has handed on every frame before that and every text. Once the client has closed the
channel, or is told that it is closed, nothing more is accepted, sent or told. -/
theorem traffic_in_order (target : Target) (closeDelay : Nat) (xs ys : List LinkEvent) :
    let r := (begin target closeDelay).run xs
    let s := r.run ys
    (∃ (texts : List String) (later : List Arrival), r.arrived = texts.map Arrival.frame ++ later ∧
      r.told = texts.filterMap (fun text => (Arrival.frame text).batch?) ++ LinkEnd.notices r.ending ∧
      (r.ending = some .hungUp → ∃ rest, later = .hangUp :: rest)) ∧
    ((∃ reason, Notice.closed reason ∈ r.told) ↔ r.link.phase ≠ .running ∧ r.link.hasClosedSocket = false) ∧
    (r.ending = none ↔ r.link.phase = .running) ∧
    (r.ending = some .asked ↔ r.link.hasClosedSocket = true) ∧
    (r.ending = some .asked → r.link.closeAsked = true) ∧
    r.link.sent <+: r.accepted ∧
    (r.ending = some .hungUp → r.link.sent = r.accepted) ∧
    (r.link.closeAsked = true ∨ (∃ reason, Notice.closed reason ∈ r.told) →
      r.link.isOpen = false ∧ s.link.isOpen = false ∧ s.accepted = r.accepted ∧ s.link.sent = r.link.sent ∧
        s.told = r.told) := by
  intro r s
  have h : r.Balanced := balanced_run (balanced_begin target closeDelay) xs
  refine ⟨?_, h.closed_mem_told_iff, h.running, h.closed, h.asked, ?_, ?_, ?_⟩
  · obtain ⟨taken, hsplit, htaken, htold⟩ := h.inbound
    obtain ⟨texts, later, hall, hbatches, hhung⟩ := htaken.frames (r.link.socket.arrivals.map Prod.snd)
    exact ⟨texts, later, hsplit.trans hall, by rw [htold, hbatches], hhung⟩
  · exact ⟨r.link.outbox, h.outbound.symm⟩
  · intro hend
    have hout := h.outbound
    rw [h.drained hend, List.append_nil] at hout
    exact hout.symm
  · intro hshut
    have hopen : r.link.isOpen = false := by
      rcases hshut with ha | hc
      · simp [Link.isOpen, ha]
      · simp [Link.isOpen, (h.closed_mem_told_iff.mp hc).1]
    exact ⟨hopen, run_of_not_isOpen hopen ys⟩

end Traffic

end PaddleLink
