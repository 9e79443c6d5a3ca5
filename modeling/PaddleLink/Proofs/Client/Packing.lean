import PaddleLink.Proofs.Client.Kept
import PaddleLink.Proofs.Client.News

namespace PaddleLink

theorem Chronicle.timeline_run (r : Chronicle) (xs : List Happening) : (r.run xs).timeline = r.timeline.run xs := by
  induction xs generalizing r with
  | nil => rfl
  | cons x xs ih => exact ih (r.step x)

theorem Timeline.exists_upToDate_run (settings : Settings) (base : Url) (xs : List Happening) :
    ∃ typed heard, (run ⟨.fresh settings base, 0⟩ xs).client.UpToDate typed heard := by
  have hrun := Chronicle.upToDate_run (r := .begin settings base) (Client.sound_fresh settings base)
    (Client.upToDate_fresh settings base) xs
  rw [Chronicle.client, Chronicle.timeline_run] at hrun
  exact ⟨_, _, hrun⟩

namespace Client

/-- A client whose channel, if it has one, has told just this. -/
def hearing (c : Client) (ns : List Notice) : Client :=
  { c with connections := c.connections.mapHeld fun l => { l with notices := ns } }

variable {c c' : Client}

/-- Which notices have been there does not matter once they are taken out. -/
theorem clearNotices_hearing (h : c.Coherent) (ns : List Notice) : (c.hearing ns).clearNotices = c.hearing [] := by
  have hinbound := h.inbound
  cases hk : c.connections.held with
  | none =>
    rw [hk] at hinbound
    simp [clearNotices, hearing, Connections.mapHeld, hk, hinbound]
  | some k =>
    rw [hk] at hinbound
    simp [clearNotices, hearing, Connections.mapHeld, Connections.modify, hk, hinbound, Connection.mapLink,
      Link.clearNotices]

theorem notices_hearing (h : c.Coherent) (ns : List Notice) :
    (c.hearing ns).notices = if c.connections.held.isSome then Notice.upToLoss ns else [] := by
  have hlistened : (c.hearing ns).listened? = (c.hearing ns).connections.held := by
    have hcoherent : (c.hearing ns).inbound =
        (c.hearing ns).connections.held.map fun _ => (c.hearing ns).connections.past.length := by
      rw [hearing, Connections.mapHeld, Option.map_map]
      exact h.inbound
    rw [listened?, hcoherent]
    cases hk : (c.hearing ns).connections.held with
    | none => rfl
    | some k => simp [Connections.all, hk]
  rw [notices, hlistened, hearing, Connections.mapHeld]
  cases c.connections.held <;> rfl

theorem upToLoss_batches (bs : List (List Event)) : Notice.upToLoss (bs.map .batch) = bs.map .batch := by
  induction bs with
  | nil => rfl
  | cons b bs ih => rw [List.map_cons, Notice.upToLoss, ih]

theorem foldl_take_batches (hattentive : c.Attentive) (bs : List (List Event)) (count : Nat) :
    (bs.map Notice.batch).foldl (fun (p : Client × Nat) n => (p.1.take n, p.2 + p.1.handedOut n)) (c, count) =
      (bs.foldl takeBatch c, count + bs.flatten.length) := by
  induction bs generalizing c count with
  | nil => rfl
  | cons b bs ih =>
    have hhanded : c.handedOut (.batch b) = b.length := by
      rw [handedOut, Multiplexer.counts, hattentive.streams]
      exact total_ofBatch b
    rw [List.map_cons, List.foldl_cons, hhanded, List.foldl_cons, List.flatten_cons, List.length_append,
      ← Nat.add_assoc]
    exact ih (hattentive.takeBatch b) _

/-- A pump takes all batches and counts their events. Without a channel there are none to take. -/
theorem pump_hearing (h : c.Coherent) (bs : List (List Event)) :
    let taken := if c.connections.held.isSome then bs else []
    let d := taken.foldl takeBatch (c.hearing [])
    (c.hearing (bs.map .batch)).pump =
      (if d.isToldAll then { d with inbound := none } else d, taken.flatten.length) := by
  intro taken d
  have hnotices : (c.hearing (bs.map .batch)).notices = taken.map .batch := by
    rw [notices_hearing h, upToLoss_batches]
    simp only [taken]
    split <;> rfl
  have htaken : (c.hearing (bs.map .batch)).takeNotices = (d, taken.flatten.length) := by
    rw [takeNotices, hnotices, clearNotices_hearing h]
    have hfold := foldl_take_batches (c := c.hearing []) (h.attentive.of_same rfl rfl rfl) taken 0
    rw [Nat.zero_add] at hfold
    exact hfold
  rw [pump, htaken]

theorem alike_hearing (c : Client) (ns : List Notice) : c.Alike (c.hearing ns) :=
  ⟨rfl, rfl, rfl, rfl⟩

/-- What batches leave is published, because it is once a pump has taken them. -/
theorem published_takeBatches {typed : List KeyEvent} {heard : List Event} (h : c.Coherent)
    (hup : c.UpToDate typed heard) (bs : List (List Event)) :
    let d := (if c.connections.held.isSome then bs else []).foldl takeBatch (c.hearing [])
    d.composer.current = compose d.lobby.session d.keyboard d.composer.remote := by
  intro d
  have hhearing : (c.hearing (bs.map .batch)).Attentive := h.attentive.of_same rfl rfl rfl
  have hpumped := (upToDate_pump hhearing (hup.of_alike (alike_hearing c (bs.map .batch)))).published
  rw [pump_hearing h bs] at hpumped
  by_cases htold : d.isToldAll
  · simpa [d, htold] using hpumped
  · simpa [d, htold] using hpumped

theorem Concurs.unlisten (h : c.Concurs c') :
    let unlisten (d : Client) : Client := if d.isToldAll then { d with inbound := none } else d
    (unlisten c).Concurs (unlisten c') := by
  intro unlisten
  have hend : c'.isToldAll = c.isToldAll := by
    unfold isToldAll listened?
    rw [h.inbound, h.connections]
  simp only [unlisten, hend]
  split
  · exact { h with inbound := rfl }
  · exact h

end Client

namespace Timeline

/-- A pump makes the same of the same events topic by topic: only the queues of the subscribers, who get them
batch by batch, and the marks of the published inputs can tell the difference. -/
theorem pump_ignores_packing (settings : Settings) (base : Url) (xs : List Happening) (bs bs' : List (List Event))
    (h : ∀ t, eventsOf t bs.flatten = eventsOf t bs'.flatten) :
    let c := (run ⟨.fresh settings base, 0⟩ xs).client
    let d := (c.hearing (bs.map .batch)).pump
    let d' := (c.hearing (bs'.map .batch)).pump
    d.1.Concurs d'.1 ∧ d'.2 = d.2 ∧ (c.connections.held.isSome → d.2 = bs.flatten.length) := by
  intro c d d'
  have hsound : c.Sound := sound_run (Client.sound_fresh settings base) xs
  obtain ⟨typed, heard, hup⟩ := exists_upToDate_run settings base xs
  let taken (bs : List (List Event)) := if c.connections.held.isSome then bs else []
  let after (bs : List (List Event)) := (taken bs).foldl Client.takeBatch (c.hearing [])
  have htold (bs : List (List Event)) : (c.hearing []).Told (taken bs).flatten (after bs) :=
    Client.told_takeBatches (c := c.hearing []) (hsound.attentive.of_same rfl rfl rfl) (taken bs)
  have hpublished (bs : List (List Event)) : (after bs).composer.current =
      compose (after bs).lobby.session (after bs).keyboard (after bs).composer.remote :=
    Client.published_takeBatches hsound.toCoherent hup bs
  have htaken : ∀ t, eventsOf t (taken bs).flatten = eventsOf t (taken bs').flatten := by
    intro t
    simp only [taken]
    split
    · exact h t
    · rfl
  obtain ⟨hsession, hinput, -, -, hlength⟩ := parts_congr htaken
  have hcurrent : (after bs').composer.current = (after bs).composer.current := by
    have hlobby : (after bs').lobby = (after bs).lobby := by rw [(htold bs').lobby, (htold bs).lobby, hsession]
    have hremote : (after bs').composer.remote = (after bs).composer.remote := by
      rw [(htold bs').remote, (htold bs).remote, hinput]
    have hkeyboard : (after bs').keyboard = (after bs).keyboard := by rw [(htold bs').rest, (htold bs).rest]
    rw [hpublished bs', hpublished bs, hlobby, hremote, hkeyboard]
  have hsame : (after bs).Concurs (after bs') := (htold bs).concurs (htold bs') htaken hcurrent
  simp only [d, d', Client.pump_hearing hsound.toCoherent]
  refine ⟨?_, hlength.symm, fun hheld => by rw [if_pos hheld]⟩
  exact hsame.unlisten

/-- A host is told of a player and of what the player holds, in two frames or, the other way round, in one. -/
theorem pump_ignores_packing_of_join :
    let grant : Grant := ⟨⟨⟨"a"⟩⟩, ⟨⟨"s"⟩, .pending, []⟩⟩
    let base : Url := .wsHost
    let joined : Event := .session ⟨⟨⟨"b"⟩⟩, "joined", "", ⟨⟨"s"⟩, .running, [⟨⟨"b"⟩, .two⟩]⟩⟩
    let held : Event := .input ⟨⟨"s"⟩, [], ⟨"b"⟩, some .two, 0⟩
    let c := (run ⟨.fresh .standard base, 0⟩ [.start ⟨[.ok grant], 0⟩ ⟨.immediate, true⟩ .host]).client
    let d := (c.hearing [.batch [joined], .batch [held]]).pump
    let d' := (c.hearing [.batch [held, joined]]).pump
    (∀ t, eventsOf t [joined, held] = eventsOf t [held, joined]) ∧
      d.1.Concurs d'.1 ∧ d'.2 = d.2 ∧ d.2 = 2 := by
  intro grant base joined held c d d'
  have hsame : ∀ t, eventsOf t [joined, held] = eventsOf t [held, joined] := by
    intro t
    cases t <;> rfl
  have hopen : c.connections.held.isSome := by decide +kernel
  obtain ⟨hclient, hcount, htold⟩ :=
    pump_ignores_packing .standard base [.start ⟨[.ok grant], 0⟩ ⟨.immediate, true⟩ .host] [[joined], [held]]
      [[held, joined]] hsame
  exact ⟨hsame, hclient, hcount, htold hopen⟩

end Timeline

end PaddleLink
