import PaddleLink.Proofs.Client.Behind
import PaddleLink.Proofs.Client.Kept

namespace PaddleLink

namespace Client

/-- How far a client that is reset at a time is behind a new one. -/
def lagAtReset (c : Client) (now : Nat) : Lag where
  time := now
  shared := 0
  omitted := c.connections.all.length
  ended := c.topics.subscriptions.length
  marks := c.composer.marks + 1

variable {c : Client} {settings : Settings} {base : Url}

theorem trails_reset (h : (fresh settings base).Configured c) (now : Nat) :
    Trails (c.lagAtReset now) none { fresh settings base with keyboard := c.keyboard } c.reset := by
  have hpast : c.connections.close.past.length = c.connections.all.length := by
    rw [Connections.close, Connections.all, List.length_append, List.length_append]
    cases c.connections.held <;> rfl
  have hconnections : (Connections.initial base settings.retry).Trails (c.lagAtReset now) c.connections.close := by
    refine ⟨h.base, h.policy, Nat.le_refl 0, ?_, ?_, .none⟩
    · rw [hpast]
      exact Nat.le_of_eq (Nat.zero_add _)
    · have hdropped : c.connections.close.past.drop (0 + c.connections.all.length) = [] := by
        rw [Nat.zero_add, ← hpast, List.drop_length]
      change List.Forall₂ _ [] (c.connections.close.past.drop (0 + c.connections.all.length))
      rw [hdropped]
      exact .nil
  exact {
    settings := h.settings
    lobby := rfl
    idle := fun h => by cases h
    connections := hconnections
    inbound := rfl
    topics := Multiplexer.trails_renew _
    feeds := rfl
    composer := by
      change Composer.mk .empty [] (c.composer.marks + 1) = ⟨.empty, [], 0 + (c.composer.marks + 1)⟩
      rw [Nat.zero_add]
    keyboard := rfl
    pulse := rfl
    lastSnapshot := fun h => by cases h
    score := rfl
    ticks := rfl }

end Client

namespace Timeline

/-- After a reset a client goes on as a new one does with the same keys held, later by the time that has passed.
What happens to connections and subscribers from before the reset makes no difference, and for those subscribers
the streams have ended. -/
theorem reset_like_new (settings : Settings) (base : Url) (xs ys : List Happening) :
    let t := run ⟨.fresh settings base, 0⟩ xs
    let new : Timeline := ⟨{ Client.fresh settings base with keyboard := t.client.keyboard }, 0⟩
    let g := t.client.lagAtReset t.now
    let s := new.run (ys.filterMap (Happening.ahead? g))
    let s' := (t.step .reset).run ys
    s.Trails g none s' ∧
      (∀ i p, i < t.client.topics.subscriptions.length → s'.client.topics.subscriptions[i]? = some p →
        p.2.attached = false) ∧
      (∀ y x, y.ahead? g = some x → s'.answer y = s.answer x) ∧ ∀ x : Happening, (x.behind g).ahead? g = some x := by
  intro t new g s s'
  have hconfigured : (Client.fresh settings base).Configured t.client :=
    configured_run (t := ⟨.fresh settings base, 0⟩) (Client.sound_fresh settings base) xs
  have hnew : new.client.Sound := Client.sound_of_offline Lobby.begun_initial rfl ⟨rfl, rfl, Nat.zero_le _⟩ rfl rfl rfl
  have hreset : (t.step .reset).client.Sound := Client.sound_reset t.client
  have htrails : new.Trails g none (t.step .reset) := by
    refine ⟨Client.trails_reset hconfigured t.now, ?_⟩
    change t.now = 0 + t.now
    rw [Nat.zero_add]
  have hrun := htrails.run hnew hreset ys
  rw [ite_self] at hrun
  refine ⟨hrun, hrun.client.topics.detached, ?_, Happening.ahead?_behind g⟩
  intro y x hx
  exact hrun.answer_eq (sound_run hnew _) (sound_run hreset _) hx

end Timeline

end PaddleLink
