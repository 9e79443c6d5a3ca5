import PaddleLink.Proofs.Client.Channel
import PaddleLink.Proofs.Client.Speech
import PaddleLink.Proofs.Lobby.Roster

/-!
The players of a client's session. What a channel tells was checked when its frames were read, so only a grant can
bring players that break the limits of the protocol, and then only until the server tells of others.
-/

namespace PaddleLink

def Notice.IsVetted (n : Notice) : Prop :=
  ∀ e ∈ n.events, e.violation? = none

theorem Notice.mem_of_mem_upToLoss {n : Notice} {ns : List Notice} (h : n ∈ upToLoss ns) : n ∈ ns := by
  induction ns with
  | nil => exact h
  | cons m ns ih =>
    cases m with
    | batch events =>
      rcases List.mem_cons.mp h with rfl | hrest
      · exact List.mem_cons_self
      · exact List.mem_cons_of_mem _ (ih hrest)
    | closed reason =>
      rw [List.mem_singleton.mp h]
      exact List.mem_cons_self

namespace Link

def IsVetted (l : Link) : Prop :=
  ∀ n ∈ l.notices, n.IsVetted

variable {l : Link}

theorem isVetted_tell (h : l.IsVetted) {n : Notice} (hn : n.IsVetted) : (l.tell n).IsVetted := by
  unfold tell
  split
  · exact List.forall_mem_append.mpr ⟨h, List.forall_mem_singleton.mpr hn⟩
  · exact h

theorem isVetted_lose (h : l.IsVetted) (reason : Option String) : (l.lose reason).IsVetted :=
  isVetted_tell h nofun

theorem isVetted_accept (h : l.IsVetted) (a : Arrival) : (l.accept a).IsVetted := by
  cases a with
  | frame text =>
    simp only [accept, receive]
    split
    · exact h
    · rename_i events _ hread
      exact isVetted_tell h fun e he => (usable_of_readFrame hread e he).1
    · exact h
  | failure e => exact isVetted_lose h _
  | hangUp => exact isVetted_lose h _
  | collapse => exact h

theorem isVetted_turn (h : l.IsVetted) (now : Nat) : (l.turn now).IsVetted := by
  have hturn := l.turnOutcome now
  revert hturn
  generalize l.turn now = l', l.end? now = ending
  intro hturn
  cases hturn with
  | rest | finish | close | send => exact h
  | sendFailed text outbox e =>
    have hsent : (recordCall { l with outbox := outbox } now (.send text)).IsVetted := h
    exact isVetted_lose hsent _
  | accept t a arrivals =>
    have hleft : ({ l with socket := { l.socket with arrivals := arrivals } } : Link).IsVetted := h
    exact isVetted_accept hleft a

theorem lasting_isVetted : Lasting IsVetted where
  fresh := by
    intro url t listens now n hn
    have hnone : (Connection.fresh url t listens now).link.notices = [] := by
      unfold Connection.fresh
      split <;> rfl
    rw [hnone] at hn
    cases hn
  turn := fun _ now h => isVetted_turn h now
  send := by
    intro l text h
    unfold send
    split <;> exact h
  socket := fun _ _ h => h
  clearNotices := fun _ _ _ hn => by cases hn

end Link

theorem Client.isVetted_of_mem_notices {c : Client} (h : c.Holds Link.IsVetted) (hsound : c.Sound) {n : Notice}
    (hn : n ∈ c.notices) : n.IsVetted := by
  rw [notices, hsound.listened?_eq] at hn
  cases hk : c.connections.held with
  | none =>
    rw [hk] at hn
    cases hn
  | some k =>
    rw [hk] at hn
    exact h k hk n (Notice.mem_of_mem_upToLoss hn)

namespace Register

variable {r : Register}

/-- The session goes back to the last grant, and what the client is told keeps the limits. -/
structure Orderly (os : List Origin) (c : Client) : Prop where
  sound : c.Sound
  vetted : c.Holds Link.IsVetted
  granted : c.lobby.IsUnder (os.getLast?.map Origin.grant)

theorem isUnder_start (h : Orderly r.origins r.client) {endpoint : Endpoint} {server : Server} {s : Start}
    (ended : r.client.StartEnd endpoint s (r.step (.start endpoint server s)).client) :
    (r.step (.start endpoint server s)).client.lobby.IsUnder
      ((r.step (.start endpoint server s)).origins.getLast?.map Origin.grant) := by
  cases ended with
  | busy hl same =>
    rw [r.origins_step_of_same (by rw [same]), same]
    exact h.granted
  | failed e hl lobby waited =>
    rw [r.origins_step_of_same waited.voices]
    exact Lobby.isUnder_of_session h.granted (by rw [lobby])
  | solo hl request lobby waited => exact Lobby.isUnder_of_no_network (by simp [lobby])
  | opened request g k p hl hrequest answer lobby held target whole inbound pulse identity voices topics =>
    rw [r.origins_step_of_more (origin?_start server hrequest answer) voices, List.getLast?_concat]
    exact Lobby.isUnder_granted (by rw [lobby])
  | aborted request g e hl hrequest answer lobby => exact Lobby.isUnder_of_no_network (by simp [lobby])

theorem isUnder_pump {os : List Origin} {c : Client} (h : Orderly os c) :
    c.pump.1.lobby.IsUnder (os.getLast?.map Origin.grant) := by
  refine Client.pump_keeps_of_told (P := fun d => d.lobby.IsUnder _) h.sound.attentive ?_ ?_ ?_ ?_
  · rw [(Client.alike_clearNotices c).lobby]
    exact h.granted
  · intro d batch htold hattentive hd
    have hvetted := Client.isVetted_of_mem_notices h.vetted h.sound htold
    rw [(Client.takeBatch_parts d batch hattentive).1]
    refine hd.reconcileAll fun e he => ?_
    obtain ⟨event, hevent, hsession⟩ := List.mem_filterMap.mp he
    cases event with
    | session e' =>
      cases hsession
      exact hvetted _ hevent
    | input | move | tick | status => cases hsession
  · exact fun d reason hd => Lobby.isUnder_of_session hd rfl
  · exact fun d hd => hd

theorem orderly_step (h : Orderly r.origins r.client) (x : Happening) :
    Orderly (r.step x).origins (r.step x).client := by
  refine ⟨sound_step h.sound x, Timeline.holds_step Link.lasting_isVetted h.sound h.vetted x, ?_⟩
  have hkept : ∀ c : Client, x.origin? = none → c.lobby.IsUnder (r.origins.getLast?.map Origin.grant) →
      c.lobby.IsUnder ((r.step x).origins.getLast?.map Origin.grant) :=
    fun c hx hc => r.origins_step_of_no_origin hx ▸ hc
  change (r.timeline.step x).client.lobby.IsUnder _
  cases Timeline.stepOutcome h.sound x with
  | start endpoint server s happening ended =>
    subst happening
    exact isUnder_start h ended
  | pump origin client =>
    rw [client]
    exact hkept _ origin (isUnder_pump h)
  | frame objects origin client =>
    rw [client, (Client.alike_sendSnapshot _ _ _).lobby]
    exact hkept _ origin (isUnder_pump h)
  | sendSnapshot objects origin client =>
    rw [client, (Client.alike_sendSnapshot _ _ _).lobby]
    exact hkept _ origin h.granted
  | reset happening client =>
    rw [client]
    exact Lobby.isUnder_of_no_network fun s hs => by cases hs
  | pass until_ origin client =>
    rw [client, (Client.alike_pass _ _ _).lobby]
    exact hkept _ origin h.granted
  | quiet origin tended pulse voices =>
    rw [tended.lobby]
    exact hkept _ origin h.granted

theorem orderly_run (h : Orderly r.origins r.client) (xs : List Happening) :
    Orderly (r.run xs).origins (r.run xs).client := by
  induction xs generalizing r with
  | nil => exact h
  | cons x xs ih => exact ih (orderly_step h x)

theorem orderly_begin (settings : Settings) (base : Url) :
    Orderly (begin settings base).origins (begin settings base).client where
  sound := Client.sound_fresh settings base
  vetted := Connections.holds_of_unheld rfl
  granted := Lobby.isUnder_of_no_network fun s hs => by cases hs

end Register

/-- In every run of a lobby on events that were read from frames, and in every run of a client, the players of a
session with a server keep the limits, so that each is alone in a slot, exactly when they are not still those of a
grant that breaks the limits. -/
theorem players_keep_limits_unless_granted (ds : List Deed) (hds : ∀ d ∈ ds, d.IsRead) (settings : Settings)
    (base : Url) (xs : List Happening) :
    (let r := Tenure.begin.run ds
      ∀ s, r.lobby.session = some (.network s) → ∃ g, r.grant = some g ∧ g.Covers s ∧
        (s.KeepsLimits ↔ (s.players = g.session.players → rosterViolation? g.session.players = none))) ∧
    (let r := (Register.begin settings base).run xs
      ∀ s, r.client.lobby.session = some (.network s) → ∃ o, r.origins.getLast? = some o ∧ o.grant.Covers s ∧
        (s.KeepsLimits ↔ (s.players = o.grant.session.players → rosterViolation? o.grant.session.players = none))) := by
  constructor
  · intro r s hs
    obtain ⟨g, hg, hcovers⟩ := Tenure.isUnder_run (Lobby.isUnder_of_no_network fun s hs => by cases hs) hds s hs
    exact ⟨g, hg, hcovers, hcovers.keepsLimits_iff⟩
  · intro r s hs
    obtain ⟨g, hg, hcovers⟩ := (Register.orderly_run (Register.orderly_begin settings base) xs).granted s hs
    obtain ⟨o, ho, rfl⟩ := Option.map_eq_some_iff.mp hg
    exact ⟨o, ho, hcovers, hcovers.keepsLimits_iff⟩

/-- A grant is not checked, so the players may break the limits. -/
theorem granted_players_break_limits :
    ¬∀ ds : List Deed, (∀ d ∈ ds, d.IsRead) → ∀ s, (Tenure.begin.run ds).lobby.session = some (.network s) →
      s.KeepsLimits := by
  intro h
  let grant : Grant := ⟨⟨⟨"a"⟩⟩, ⟨⟨"s"⟩, .running, [⟨⟨"a"⟩, .one⟩, ⟨⟨"b"⟩, .one⟩]⟩⟩
  have hread : ∀ d ∈ [Deed.start 0 ⟨[.ok grant], 0⟩ .host], d.IsRead := List.forall_mem_singleton.mpr trivial
  have hapart := (h _ hread (grant.sessionAs .host) rfl).apart
  exact absurd hapart (by decide)

/-- A grant of two players in one slot, whom a report then puts into different ones. -/
theorem players_keep_limits_unless_granted_of_report :
    let grant : Grant := ⟨⟨⟨"a"⟩⟩, ⟨⟨"s"⟩, .running, [⟨⟨"a"⟩, .one⟩, ⟨⟨"b"⟩, .one⟩]⟩⟩
    let e : SessionEvent := ⟨⟨⟨"b"⟩⟩, "joined", "", ⟨⟨"s"⟩, .running, [⟨⟨"a"⟩, .one⟩, ⟨⟨"b"⟩, .two⟩]⟩⟩
    let ds := [Deed.start 0 ⟨[.ok grant], 0⟩ .host, .reconcile e]
    (∀ d ∈ ds, d.IsRead) ∧ ∃ s, (Tenure.begin.run ds).lobby.session = some (.network s) ∧ s.KeepsLimits := by
  intro grant e ds
  have hread : e.IsRead := by
    refine ⟨writeFrame [.session e], [.session e], readFrame_of_usable ?_ ?_, List.mem_singleton_self _⟩
    · exact List.forall_mem_singleton.mpr rfl
    · exact List.forall_mem_singleton.mpr nofun
  have hds : ∀ d ∈ ds, d.IsRead := List.forall_mem_cons.mpr ⟨trivial, List.forall_mem_singleton.mpr hread⟩
  have hsession : (Tenure.begin.run ds).lobby.session =
      some (.network ((grant.sessionAs .host).update e.session)) := by decide
  let base : Url := .wsHost
  obtain ⟨g, hg, -, hiff⟩ := (players_keep_limits_unless_granted ds hds .standard base []).1 _ hsession
  cases hg
  exact ⟨hds, _, hsession, hiff.mpr fun hsame => absurd hsame (by decide)⟩

end PaddleLink
