import PaddleLink.Proofs.Client.Inputs
import PaddleLink.Proofs.Client.Resources

/-!
What batches make of a client. Only the events of each topic and their order matter, not how they are
packed: taking batches one after another comes to the same as taking all their events at once.
-/

namespace PaddleLink

theorem parts_congr {es es' : List Event} (h : ∀ t, eventsOf t es = eventsOf t es') :
    sessionEvents es = sessionEvents es' ∧ inputEvents es = inputEvents es' ∧ tickEvents es = tickEvents es' ∧
      statusEvents es = statusEvents es' ∧ es.length = es'.length := by
  refine ⟨?_, ?_, ?_, ?_, ?_⟩
  · rw [← sessionEvents_eventsOf es, h, sessionEvents_eventsOf]
  · rw [← inputEvents_eventsOf es, h, inputEvents_eventsOf]
  · rw [← tickEvents_eventsOf es, h, tickEvents_eventsOf]
  · rw [← statusEvents_eventsOf es, h, statusEvents_eventsOf]
  · rw [← total_ofBatch es, ← total_ofBatch es']
    simp only [Counts.ofBatch, h]

theorem sessionEvents_append (as bs : List Event) : sessionEvents (as ++ bs) = sessionEvents as ++ sessionEvents bs :=
  List.filterMap_append

theorem inputEvents_append (as bs : List Event) : inputEvents (as ++ bs) = inputEvents as ++ inputEvents bs :=
  List.filterMap_append

theorem tickEvents_append (as bs : List Event) : tickEvents (as ++ bs) = tickEvents as ++ tickEvents bs :=
  List.filterMap_append

theorem statusEvents_append (as bs : List Event) : statusEvents (as ++ bs) = statusEvents as ++ statusEvents bs :=
  List.filterMap_append

theorem Lobby.reconcileAll_append (l : Lobby) (as bs : List SessionEvent) :
    l.reconcileAll (as ++ bs) = l.reconcileAll as ++ (l.after (l.reconcileAll as)).reconcileAll bs := by
  induction as generalizing l with
  | nil => rfl
  | cons a as ih => simp only [List.cons_append, Lobby.reconcileAll, ih, Lobby.after_append, List.append_assoc]

/-- What is dropped early would have been dropped in the end. -/
theorem rtake_append {α : Type} (as bs : List α) (n : Nat) : (as.rtake n ++ bs).rtake n = (as ++ bs).rtake n := by
  simp only [List.rtake_eq_reverse_take_reverse, List.reverse_append, List.reverse_reverse, List.take_append,
    List.take_take]
  rw [Nat.min_eq_left (Nat.sub_le _ _)]

namespace Client

variable {c c' c'' : Client} {es es' : List Event}

theorem me_eq_of_seat (h : c'.lobby.session.map Session.seat = c.lobby.session.map Session.seat) : c'.me = c.me := by
  have hme : ∀ d : Client, d.me = (d.lobby.session.map Session.seat).bind fun seat => seat.2.2.map Actor.id := by
    intro d
    rw [me]
    cases d.lobby.session with
    | none => rfl
    | some s => cases s <;> rfl
  rw [hme, hme, h]

theorem remote_keep (c : Client) (batch : List Event) :
    (c.keep batch).composer.remote = c.composer.remote.applyAll c.me (inputEvents batch) := by
  unfold keep
  simp only
  split
  · exact refresh_remote _
  · rfl

theorem score_keep (c : Client) (batch : List Event) :
    (c.keep batch).score = (statusEvents batch).getLast?.or c.score := by
  unfold keep
  simp only
  split <;> rfl

/-- A client that has been told events, in whichever batches. Only the queues of the subscribers and the marks of
the published inputs depend on these. -/
structure Told (c : Client) (es : List Event) (c' : Client) : Prop where
  lobby : c'.lobby = c.lobby.after (c.lobby.reconcileAll (sessionEvents es))
  remote : c'.composer.remote = c.composer.remote.applyAll c.me (inputEvents es)
  ticks : c'.ticks = (c.ticks ++ tickEvents es).rtake tickLimit
  score : c'.score = (statusEvents es).getLast?.or c.score
  pulse : c'.pulse = if sessionEvents es ≠ [] ∧ c'.lobby.lifecycle = .closed then none else c.pulse
  attentive : c'.Attentive
  rest : c' = { c with
    lobby := c'.lobby
    composer := c'.composer
    ticks := c'.ticks
    score := c'.score
    pulse := c'.pulse
    topics := c'.topics }

theorem told_nil (hattentive : c.Attentive) : c.Told [] c where
  lobby := rfl
  remote := rfl
  ticks := by
    change c.ticks = (c.ticks ++ []).rtake tickLimit
    rw [List.append_nil, rtake_eq_self hattentive.room]
  score := rfl
  pulse := rfl
  attentive := hattentive
  rest := rfl

theorem told_takeBatch (hattentive : c.Attentive) (batch : List Event) : c.Told batch (c.takeBatch batch) := by
  obtain ⟨hlobby, -, -, hnext, -, hpulse⟩ := takeBatch_parts c batch hattentive
  have hkept := takeBatch_eq c batch hattentive
  -- events of the session change neither who this client is nor what it has heard before
  have hme : me { c with lobby := c.lobby.after (c.lobby.reconcileAll (sessionEvents batch)) } = c.me :=
    me_eq_of_seat (Lobby.seat_after_reconcileAll c.lobby _)
  refine ⟨hlobby, ?_, ?_, ?_, by rw [hlobby]; exact hpulse, hnext, ?_⟩
  · rw [hkept, remote_keep]
    exact congrArg (fun m => c.composer.remote.applyAll m _) hme
  · rw [hkept, ticks_keep]
  · rw [hkept, score_keep]
  · rw [hkept, keep_rest]

theorem Told.me_eq (h : c.Told es c') : c'.me = c.me := by
  apply me_eq_of_seat
  rw [h.lobby]
  exact Lobby.seat_after_reconcileAll c.lobby _

/-- Once the heartbeats have ended with the session, later events do not bring them back. -/
theorem Told.pulse_trans (h : c.Told es c') (h' : c'.Told es' c'') :
    c''.pulse = if sessionEvents (es ++ es') ≠ [] ∧ c''.lobby.lifecycle = .closed then none else c.pulse := by
  rw [h'.pulse, h.pulse, sessionEvents_append]
  by_cases hnone : sessionEvents es' = []
  · have hsame : c''.lobby = c'.lobby := by rw [h'.lobby, hnone]; rfl
    simp [hnone, hsame]
  · by_cases hover : c''.lobby.lifecycle = .closed
    · simp [hnone, hover]
    · have hbefore : c'.lobby.lifecycle ≠ .closed := by
        intro hc
        rcases Lobby.lifecycle_after_reconcileAll c'.lobby (sessionEvents es') with hsame | hclosed
        · exact hover (by rw [h'.lobby, hsame, hc])
        · exact hover (by rw [h'.lobby, hclosed])
      simp [hover, hbefore]

theorem Told.trans (h : c.Told es c') (h' : c'.Told es' c'') : c.Told (es ++ es') c'' where
  lobby := by rw [h'.lobby, h.lobby, sessionEvents_append, Lobby.reconcileAll_append, Lobby.after_append]
  remote := by
    rw [h'.remote, h.remote, h.me_eq, inputEvents_append]
    exact (List.foldl_append ..).symm
  ticks := by rw [h'.ticks, h.ticks, rtake_append, tickEvents_append, List.append_assoc]
  score := by rw [h'.score, h.score, statusEvents_append, List.getLast?_append, Option.or_assoc]
  pulse := h.pulse_trans h'
  attentive := h'.attentive
  rest := by
    rw [h'.rest, h.rest]

/-- Two states of a client that differ at most in the queues of its subscribers and in the marks of its published
inputs. -/
structure Concurs (c c' : Client) : Prop where
  settings : c'.settings = c.settings
  lobby : c'.lobby = c.lobby
  connections : c'.connections = c.connections
  inbound : c'.inbound = c.inbound
  feeds : c'.feeds = c.feeds
  remote : c'.composer.remote = c.composer.remote
  current : c'.composer.current = c.composer.current
  keyboard : c'.keyboard = c.keyboard
  pulse : c'.pulse = c.pulse
  lastSnapshot : c'.lastSnapshot = c.lastSnapshot
  score : c'.score = c.score
  ticks : c'.ticks = c.ticks

/-- Clients concur when they have been told the same events topic by topic and have published what there is. -/
theorem Told.concurs {d d' : Client} (h : c.Told es d) (h' : c.Told es' d') (hes : ∀ t, eventsOf t es = eventsOf t es')
    (hcurrent : d'.composer.current = d.composer.current) : d.Concurs d' := by
  obtain ⟨hsession, hinput, htick, hstatus, -⟩ := parts_congr hes
  have hlobby : d'.lobby = d.lobby := by rw [h'.lobby, h.lobby, hsession]
  refine ⟨?_, hlobby, ?_, ?_, ?_, ?_, hcurrent, ?_, ?_, ?_, ?_, ?_⟩
  · rw [h'.rest, h.rest]
  · rw [h'.rest, h.rest]
  · rw [h'.rest, h.rest]
  · rw [h'.rest, h.rest]
  · rw [h'.remote, h.remote, hinput]
  · rw [h'.rest, h.rest]
  · rw [h'.pulse, h.pulse, hlobby, hsession]
  · rw [h'.rest, h.rest]
  · rw [h'.score, h.score, hstatus]
  · rw [h'.ticks, h.ticks, htick]

theorem told_takeBatches (hattentive : c.Attentive) (bs : List (List Event)) : c.Told bs.flatten (bs.foldl takeBatch c) := by
  induction bs using List.reverseRecOn with
  | nil => exact told_nil hattentive
  | append_singleton bs b ih =>
    rw [List.foldl_append, List.flatten_append, List.flatten_singleton]
    exact ih.trans (told_takeBatch ih.attentive b)

end Client

end PaddleLink
