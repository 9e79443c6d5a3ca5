import PaddleLink.Proofs.Client.Kept
import PaddleLink.Proofs.Client.Subscribers

/-!
What a client has to tell: the newest snapshots among the events that it took since one was last read, and the latest
status since the last reset. Losses, new sessions and subscribers do not touch either.
-/

namespace PaddleLink

namespace Client

variable {c c' : Client} {unread told : List Event}

/-- The news of a client that took some events since it was last read, and others since its last reset. -/
structure Tells (c : Client) (unread told : List Event) : Prop where
  ticks : c.ticks = (tickEvents unread).rtake tickLimit
  score : c.score = (statusEvents told).getLast?

theorem Tells.of_kept (h : c.Tells unread told) (hkept : c.Kept c') : c'.Tells unread told where
  ticks := hkept.ticks.trans h.ticks
  score := hkept.score.trans h.score

theorem Tells.takeBatch (h : c.Tells unread told) (hattentive : c.Attentive) (batch : List Event) :
    (c.takeBatch batch).Tells (unread ++ batch) (told ++ batch) where
  ticks := by
    calc (c.takeBatch batch).ticks
      _ = (c.ticks ++ tickEvents batch).rtake tickLimit := (told_takeBatch hattentive batch).ticks
      _ = ((tickEvents unread).rtake tickLimit ++ tickEvents batch).rtake tickLimit := by rw [h.ticks]
      _ = (tickEvents unread ++ tickEvents batch).rtake tickLimit := rtake_append _ _ _
      _ = (tickEvents (unread ++ batch)).rtake tickLimit := by rw [tickEvents_append]
  score := by
    calc (c.takeBatch batch).score
      _ = (statusEvents batch).getLast?.or c.score := (told_takeBatch hattentive batch).score
      _ = (statusEvents batch).getLast?.or (statusEvents told).getLast? := by rw [h.score]
      _ = (statusEvents told ++ statusEvents batch).getLast? := List.getLast?_append.symm
      _ = (statusEvents (told ++ batch)).getLast? := by rw [statusEvents_append]

theorem Tells.foldl_take (h : c.Tells unread told) (hattentive : c.Attentive) (ns : List Notice) (n : Nat) :
    let taken := ns.foldl (fun p n => (p.1.take n, p.2 + p.1.handedOut n)) (c, n)
    taken.1.Tells (unread ++ ns.flatMap Notice.events) (told ++ ns.flatMap Notice.events) := by
  induction ns generalizing c unread told n with
  | nil =>
    rw [List.flatMap_nil, List.append_nil, List.append_nil]
    exact h
  | cons notice ns ih =>
    rw [List.flatMap_cons, ← List.append_assoc, ← List.append_assoc]
    cases notice with
    | batch events => exact ih (h.takeBatch hattentive events) (hattentive.takeBatch events) _
    | closed reason =>
      have hlost : (c.takeLoss reason).Tells unread told := ⟨h.ticks, h.score⟩
      rw [Notice.events, List.append_nil, List.append_nil]
      exact ih hlost (hattentive.takeLoss reason) _

theorem Tells.pump (h : c.Tells unread told) (hattentive : c.Attentive) :
    c.pump.1.Tells (unread ++ c.notices.flatMap Notice.events) (told ++ c.notices.flatMap Notice.events) := by
  have hcleared : c.clearNotices.Tells unread told := by
    unfold clearNotices
    split
    · exact h.of_kept (kept_onConnection c _ _)
    · exact h
  have htaken := hcleared.foldl_take hattentive.clearNotices c.notices 0
  unfold Client.pump
  simp only
  split
  · exact ⟨htaken.ticks, htaken.score⟩
  · exact htaken

end Client

def Happening.isReset : Happening → Bool
  | .reset => true
  | _ => false

def Happening.clearsTicks : Happening → Bool
  | .nextTick | .reset => true
  | _ => false

/-- A client over time, and which events it has taken. -/
structure Bulletin where
  timeline : Timeline
  unread : List Event
  told : List Event

namespace Bulletin

def begin (settings : Settings) (base : Url) : Bulletin :=
  ⟨⟨.fresh settings base, 0⟩, [], []⟩

def client (b : Bulletin) : Client :=
  b.timeline.client

def step (b : Bulletin) (x : Happening) : Bulletin where
  timeline := b.timeline.step x
  unread := if x.clearsTicks then [] else b.unread ++ b.timeline.pumped x
  told := if x.isReset then [] else b.told ++ b.timeline.pumped x

def run (b : Bulletin) (xs : List Happening) : Bulletin :=
  xs.foldl step b

variable {b b' : Bulletin}

theorem sound_step (hsound : b.client.Sound) (x : Happening) : (b.step x).client.Sound :=
  Timeline.sound_step hsound x

/-- Two bulletins of the same events, whose clients differ at most in their subscribers. -/
structure Agrees (b b' : Bulletin) : Prop where
  timeline : b.timeline.Agrees b'.timeline
  unread : b'.unread = b.unread
  told : b'.told = b.told

theorem Agrees.symm (h : b.Agrees b') : b'.Agrees b :=
  ⟨h.timeline.symm, h.unread.symm, h.told.symm⟩

theorem Agrees.skip (h : b.Agrees b') {x : Happening} (hx : x.isSubscribers = true) : b.Agrees (b'.step x) := by
  have hnothing : x.clearsTicks = false ∧ x.isReset = false ∧ b'.timeline.pumped x = [] := by
    cases x with
    | subscribe | read | unsubscribe => exact ⟨rfl, rfl, rfl⟩
    | _ => cases hx
  obtain ⟨hticks, hreset, hpumped⟩ := hnothing
  have hunread : (b'.step x).unread = b'.unread ++ b'.timeline.pumped x := if_neg (by rw [hticks]; decide)
  have htold : (b'.step x).told = b'.told ++ b'.timeline.pumped x := if_neg (by rw [hreset]; decide)
  refine ⟨h.timeline.skip hx, ?_, ?_⟩
  · rw [hunread, hpumped, List.append_nil, h.unread]
  · rw [htold, hpumped, List.append_nil, h.told]

theorem Agrees.step (h : b.Agrees b') (hattentive : b.client.Attentive) (x : Happening) :
    (b.step x).Agrees (b'.step x) := by
  have htaken := h.timeline.pumped_eq x
  refine ⟨h.timeline.step hattentive x, ?_, ?_⟩
  · rw [Bulletin.step, Bulletin.step, htaken, h.unread]
  · rw [Bulletin.step, Bulletin.step, htaken, h.told]

end Bulletin

end PaddleLink
