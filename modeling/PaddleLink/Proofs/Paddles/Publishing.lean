import Mathlib.Data.List.Induction
import PaddleLink.Proofs.Paddles.Remote

/-!
When those who watch the composed inputs are woken. The published list is what was composed last, it is marked only
when it changes, and composing anew is of no use as long as the recorded events tell nothing new.
-/

namespace PaddleLink

def foreignEvents (me : Option ActorId) (es : List InputEvent) : List InputEvent :=
  es.filter fun e => me ≠ some e.player

theorem foreignEvents_cons (me : Option ActorId) (e : InputEvent) (es : List InputEvent) :
    foreignEvents me (e :: es) = if me = some e.player then foreignEvents me es else e :: foreignEvents me es := by
  unfold foreignEvents
  by_cases h : me = some e.player
  · simp [h]
  · simp [h]

namespace RemoteInputs

def Holds (r : RemoteInputs) (heard : List InputEvent) : Prop :=
  ∀ player, r.latest.lookup player = lastInputs? heard player

variable {r : RemoteInputs} {heard : List InputEvent}

theorem holds_empty : empty.Holds [] :=
  fun _ => rfl

theorem Holds.apply_own (h : r.Holds heard) (e : InputEvent) : (r.apply (some e.player) e).Holds heard := by
  intro player
  rw [lookup_apply, if_neg]
  · exact h player
  · rintro ⟨rfl, hme⟩
    exact hme rfl

theorem Holds.apply_foreign (h : r.Holds heard) {me : Option ActorId} {e : InputEvent} (hme : me ≠ some e.player) :
    (r.apply me e).Holds (heard ++ [e]) := by
  intro player
  rw [lookup_apply, lastInputs?_append_singleton, h player]
  by_cases hp : e.player = player
  · subst hp
    simp [hme]
  · simp [hp]

theorem Holds.applyAll (h : r.Holds heard) (me : Option ActorId) (es : List InputEvent) :
    (r.applyAll me es).Holds (heard ++ foreignEvents me es) := by
  induction es generalizing r heard with
  | nil => simpa [foreignEvents, RemoteInputs.applyAll] using h
  | cons e es ih =>
    rw [foreignEvents_cons]
    by_cases hme : me = some e.player
    · subst hme
      rw [if_pos rfl]
      exact ih (h.apply_own e)
    · rw [if_neg hme]
      have hrest := ih (h.apply_foreign hme)
      rw [List.append_assoc] at hrest
      exact hrest

theorem changedBy_iff (r : RemoteInputs) (me : Option ActorId) (e : InputEvent) :
    r.changedBy me e = true ↔ me ≠ some e.player ∧ r.latest.lookup e.player ≠ some e.inputs := by
  simp [changedBy]

/-- Events tell something new exactly when one of them does, after those before it. -/
theorem changedByAny_iff (r : RemoteInputs) (me : Option ActorId) (es : List InputEvent) :
    r.changedByAny me es = true ↔
      ∃ before e after, es = before ++ e :: after ∧ (r.applyAll me before).changedBy me e = true := by
  induction es generalizing r with
  | nil => simp [changedByAny]
  | cons e es ih =>
    rw [changedByAny, Bool.or_eq_true, ih]
    constructor
    · rintro (hfirst | ⟨before, e', after, rfl, hlater⟩)
      · exact ⟨[], e, es, rfl, hfirst⟩
      · exact ⟨e :: before, e', after, rfl, hlater⟩
    · rintro ⟨before, e', after, hes, hchanged⟩
      cases before with
      | nil =>
        cases hes
        exact .inl hchanged
      | cons b before =>
        cases hes
        exact .inr ⟨before, e', after, rfl, hchanged⟩

end RemoteInputs

inductive ComposerCall where
  | record (me : Option ActorId) (events : List InputEvent)
  | recompute (session : Option Session) (keyboard : Keyboard)
  | reset

inductive ComposerReply where
  | recorded (changed : Bool)
  | composed (inputs : List Input)
  | forgotten
  deriving DecidableEq

def ComposerCall.heardAfter (heard : List InputEvent) : ComposerCall → List InputEvent
  | .record me es => heard ++ foreignEvents me es
  | .recompute _ _ => heard
  | .reset => []

def heardIn (calls : List ComposerCall) : List InputEvent :=
  calls.foldl ComposerCall.heardAfter []

def ComposerReply.listAfter (current : List Input) : ComposerReply → List Input
  | .recorded _ => current
  | .composed inputs => inputs
  | .forgotten => []

/-- The list that was composed last, or else `current`; after a reset it is empty. -/
def lastComposed (current : List Input) (replies : List ComposerReply) : List Input :=
  replies.foldl ComposerReply.listAfter current

theorem heardIn_concat (calls : List ComposerCall) (call : ComposerCall) :
    heardIn (calls ++ [call]) = call.heardAfter (heardIn calls) := by
  simp [heardIn]

namespace Composer

def step (c : Composer) : ComposerCall → Composer
  | .record me es => c.record me es
  | .recompute session keyboard => c.recompute session keyboard
  | .reset => c.reset

def reply (c : Composer) : ComposerCall → ComposerReply
  | .record me es => .recorded (c.remote.changedByAny me es)
  | .recompute session keyboard => .composed (compose session keyboard c.remote)
  | .reset => .forgotten

def run (c : Composer) (calls : List ComposerCall) : Composer :=
  calls.foldl step c

def replies (c : Composer) : List ComposerCall → List ComposerReply
  | [] => []
  | call :: calls => c.reply call :: (c.step call).replies calls

/-- Whether a call marks the published list as changed. -/
def Wakes (c : Composer) (call : ComposerCall) : Prop :=
  (c.step call).marks ≠ c.marks

variable {c : Composer}

theorem recompute_eq (c : Composer) (session : Option Session) (keyboard : Keyboard) :
    c.recompute session keyboard =
      { remote := c.remote
        current := compose session keyboard c.remote
        marks := if compose session keyboard c.remote = c.current then c.marks else c.marks + 1 } := by
  unfold recompute
  by_cases h : compose session keyboard c.remote = c.current
  · simp only [h, if_true]
  · simp only [h, if_false]

theorem current_recompute (c : Composer) (session : Option Session) (keyboard : Keyboard) :
    (c.recompute session keyboard).current = compose session keyboard c.remote := by
  rw [recompute_eq]

theorem remote_recompute (c : Composer) (session : Option Session) (keyboard : Keyboard) :
    (c.recompute session keyboard).remote = c.remote := by
  rw [recompute_eq]

theorem wakes_recompute_iff (c : Composer) (session : Option Session) (keyboard : Keyboard) :
    c.Wakes (.recompute session keyboard) ↔ compose session keyboard c.remote ≠ c.current := by
  rw [Wakes, step, recompute_eq]
  split
  · rename_i hsame
    simp [hsame]
  · rename_i hother
    have hmore : c.marks + 1 ≠ c.marks := by omega
    exact iff_of_true hmore hother

theorem marks_le_step (c : Composer) (call : ComposerCall) : c.marks ≤ (c.step call).marks := by
  cases call with
  | record me es => exact Nat.le_refl _
  | recompute session keyboard =>
    rw [step, recompute_eq]
    split
    · exact Nat.le_refl _
    · exact Nat.le_succ _
  | reset => exact Nat.le_succ _

theorem current_step (c : Composer) (call : ComposerCall) :
    (c.step call).current = lastComposed c.current [c.reply call] := by
  cases call with
  | record me es => rfl
  | recompute session keyboard => exact current_recompute c session keyboard
  | reset => rfl

theorem holds_step {heard : List InputEvent} (h : c.remote.Holds heard) (call : ComposerCall) :
    (c.step call).remote.Holds (call.heardAfter heard) := by
  cases call with
  | record me es => exact h.applyAll me es
  | recompute session keyboard =>
    rw [step, remote_recompute]
    exact h
  | reset => exact RemoteInputs.holds_empty

theorem current_run (c : Composer) (calls : List ComposerCall) :
    (c.run calls).current = lastComposed c.current (c.replies calls) := by
  induction calls generalizing c with
  | nil => rfl
  | cons call calls ih =>
    calc ((c.step call).run calls).current
      _ = lastComposed (c.step call).current ((c.step call).replies calls) := ih (c.step call)
      _ = lastComposed (lastComposed c.current [c.reply call]) ((c.step call).replies calls) := by rw [current_step]
      _ = lastComposed c.current (c.replies (call :: calls)) := rfl

theorem holds_run (calls : List ComposerCall) : (initial.run calls).remote.Holds (heardIn calls) := by
  -- what has been heard grows at the end, so the last call is taken off and not the first
  induction calls using List.reverseRecOn with
  | nil => exact RemoteInputs.holds_empty
  | append_singleton calls call ih =>
    rw [heardIn_concat, run, List.foldl_append]
    exact holds_step ih call

theorem marks_le_run (c : Composer) (calls : List ComposerCall) : c.marks ≤ (c.run calls).marks := by
  induction calls generalizing c with
  | nil => exact Nat.le_refl _
  | cons call calls ih => exact Nat.le_trans (marks_le_step c call) (ih (c.step call))

/-- Who has looked at the list finds it marked later exactly when one of the calls in between has marked it. -/
theorem marks_run_ne_iff (c : Composer) (calls : List ComposerCall) :
    (c.run calls).marks ≠ c.marks ↔ ∃ before call after, calls = before ++ call :: after ∧ (c.run before).Wakes call := by
  induction calls generalizing c with
  | nil => simp [run]
  | cons call calls ih =>
    have hfirst := marks_le_step c call
    have hrest := marks_le_run (c.step call) calls
    change ((c.step call).run calls).marks ≠ c.marks ↔ _
    -- marks are never taken back, so a mark of the first call is still there at the end
    have hsplit : ((c.step call).run calls).marks ≠ c.marks ↔
        c.Wakes call ∨ ((c.step call).run calls).marks ≠ (c.step call).marks := by
      unfold Wakes
      omega
    rw [hsplit, ih]
    constructor
    · rintro (hwakes | ⟨before, call', after, rfl, hwakes⟩)
      · exact ⟨[], call, calls, rfl, hwakes⟩
      · exact ⟨call :: before, call', after, rfl, hwakes⟩
    · rintro ⟨before, call', after, hcalls, hwakes⟩
      cases before with
      | nil =>
        cases hcalls
        exact .inl hwakes
      | cons b before =>
        cases hcalls
        exact .inr ⟨before, call', after, rfl, hwakes⟩

end Composer

def ComposerReply.isQuiet : ComposerReply → Bool
  | .recorded changed => !changed
  | .composed _ => true
  | .forgotten => false

namespace Composer

variable {c : Composer}

theorem remote_step_of_quiet {call : ComposerCall} (h : (c.reply call).isQuiet = true) :
    (c.step call).remote = c.remote := by
  cases call with
  | record me es =>
    have hno : c.remote.changedByAny me es = false := by simpa [reply, ComposerReply.isQuiet] using h
    exact RemoteInputs.applyAll_of_not_changedByAny hno
  | recompute session keyboard => exact remote_recompute c session keyboard
  | reset => cases h

theorem remote_run_of_quiet {calls : List ComposerCall} (h : ∀ reply ∈ c.replies calls, reply.isQuiet = true) :
    (c.run calls).remote = c.remote := by
  induction calls generalizing c with
  | nil => rfl
  | cons call calls ih =>
    obtain ⟨hfirst, hrest⟩ := List.forall_mem_cons.mp h
    calc ((c.step call).run calls).remote
      _ = (c.step call).remote := ih hrest
      _ = c.remote := remote_step_of_quiet hfirst

/-- A list stays the last one that was composed until another one is. -/
theorem lastComposed_of_same {inputs : List Input} {replies : List ComposerReply}
    (hquiet : ∀ reply ∈ replies, reply.isQuiet = true)
    (hsame : ∀ other, .composed other ∈ replies → other = inputs) : lastComposed inputs replies = inputs := by
  induction replies with
  | nil => rfl
  | cons reply replies ih =>
    obtain ⟨hfirst, hrest⟩ := List.forall_mem_cons.mp hquiet
    have hlater := ih hrest fun other hother => hsame other (List.mem_cons_of_mem _ hother)
    cases reply with
    | recorded changed => exact hlater
    | composed other =>
      have hother : other = inputs := hsame other (List.mem_cons_self ..)
      subst hother
      exact hlater
    | forgotten => cases hfirst

/-- Watchers of the composed inputs are woken exactly on change. The published list is the one that was composed last,
and is empty before that and after a reset. Composing marks it exactly when the result is another list, recording never
does, and a reset always does. Events are said to tell something new exactly when one of them, after those before it,
has other inputs than were recorded of its player, or the first ones; what this client has sent itself does not count.
Unless they do, or something is forgotten, composing gives the same list again, and marks nothing unless another list
has been composed meanwhile. -/
theorem watchers_woken_on_change (calls : List ComposerCall) :
    let c := initial.run calls
    c.current = lastComposed [] (initial.replies calls) ∧
    (∀ session keyboard, c.reply (.recompute session keyboard) = .composed (compose session keyboard c.remote) ∧
      (c.Wakes (.recompute session keyboard) ↔ c.reply (.recompute session keyboard) ≠ .composed c.current)) ∧
    (∀ me es, ¬c.Wakes (.record me es)) ∧
    c.Wakes .reset ∧
    (∀ later, (c.run later).marks ≠ c.marks ↔
      ∃ before call after, later = before ++ call :: after ∧ (c.run before).Wakes call) ∧
    (∀ player, c.remote.latest.lookup player = lastInputs? (heardIn calls) player) ∧
    (∀ me es, c.reply (.record me es) = .recorded true ↔
      ∃ before e after, es = before ++ e :: after ∧ me ≠ some e.player ∧
        lastInputs? (heardIn (calls ++ [.record me before])) e.player ≠ some e.inputs) ∧
    ∀ session keyboard later,
      let again := ComposerCall.recompute session keyboard
      let c' := c.step again
      (∀ reply ∈ c'.replies later, reply.isQuiet = true) →
        (c'.run later).reply again = c.reply again ∧
          ((∀ other, .composed other ∈ c'.replies later → .composed other = c.reply again) →
            ¬(c'.run later).Wakes again) := by
  intro c
  have hholds : c.remote.Holds (heardIn calls) := holds_run calls
  have hcomposed (a b : List Input) : ComposerReply.composed a ≠ .composed b ↔ a ≠ b := by simp
  refine ⟨current_run initial calls, ?_, ?_, ?_, marks_run_ne_iff c, hholds, ?_, ?_⟩
  · intro session keyboard
    refine ⟨rfl, ?_⟩
    rw [wakes_recompute_iff, reply, hcomposed]
  · intro me es hwakes
    exact hwakes rfl
  · exact Nat.succ_ne_self _
  · intro me es
    have hreply : c.reply (.record me es) = .recorded true ↔ c.remote.changedByAny me es = true := by simp [reply]
    rw [hreply, RemoteInputs.changedByAny_iff]
    have hbefore (before : List InputEvent) :
        (c.remote.applyAll me before).Holds (heardIn (calls ++ [.record me before])) := by
      rw [heardIn_concat]
      exact hholds.applyAll me before
    simp only [RemoteInputs.changedBy_iff, hbefore _ _]
  · intro session keyboard later again c' hquiet
    have hremote : (c'.run later).remote = c.remote := by
      rw [remote_run_of_quiet hquiet]
      exact remote_recompute c session keyboard
    refine ⟨?_, ?_⟩
    · simp only [again, reply, hremote]
    · intro hsame
      have hcurrent : (c'.run later).current = compose session keyboard c.remote := by
        rw [current_run, show c'.current = _ from current_recompute c session keyboard]
        apply lastComposed_of_same hquiet
        intro other hother
        have hreply := hsame other hother
        simpa [again, reply] using hreply
      rw [wakes_recompute_iff, hremote, hcurrent]
      exact fun hne => hne rfl

end Composer

end PaddleLink
