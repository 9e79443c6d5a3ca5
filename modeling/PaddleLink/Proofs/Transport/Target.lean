import PaddleLink.Proofs.Url.Form
import PaddleLink.Transport.Target

/-!
The URL of a channel. It leads to the server of its base, one segment further, and its query names the session, the
actor and the role so that no other target has the same one. Only a base whose path is two empty segments is not
followed: the new segment takes the place of both.
-/

namespace PaddleLink

namespace Url

def webSchemes : List (List Char) :=
  [['w', 's'], ['w', 's', 's'], ['h', 't', 't', 'p'], ['h', 't', 't', 'p', 's']]

/-- The URL has segments, which belong to an authority. -/
def HasSegments (u : Url) : Prop :=
  ∃ ss, u.path = .segments false ss

theorem withRest_spec (scheme : List Char) (authority : Authority) (cs : List Char) :
    (withRest scheme authority cs).scheme = scheme ∧ (withRest scheme authority cs).HasSegments := by
  unfold withRest
  split
  · exact ⟨rfl, _, rfl⟩
  · split
    · exact ⟨rfl, _, rfl⟩
    · split
      · exact ⟨rfl, _, rfl⟩
      · exact ⟨rfl, _, rfl⟩
  · exact ⟨rfl, _, rfl⟩

theorem parseWithAuthority_spec {scheme cs : List Char} {u : Url} (h : parseWithAuthority scheme cs = .ok u) :
    u.scheme = scheme ∧ u.HasSegments := by
  simp only [parseWithAuthority, bind, Except.bind] at h
  split at h
  · cases h
  · split at h
    · cases h
    · cases h
      exact withRest_spec scheme _ _

theorem parseRest_spec {scheme cs : List Char} {u : Url} (h : parseRest scheme cs = .ok u) :
    u.scheme = scheme ∧ (isSpecial scheme = true → u.HasSegments) := by
  unfold parseRest at h
  split at h
  · obtain ⟨hscheme, hsegments⟩ := parseWithAuthority_spec h
    exact ⟨hscheme, fun _ => hsegments⟩
  · rename_i hspecial
    refine ⟨?_, fun hs => absurd hs hspecial⟩
    split at h
    · exact (parseWithAuthority_spec h).1
    · cases h
      rfl
    · cases h
      rfl

theorem parseFile_spec {cs : List Char} {u : Url} (h : parseFile cs = .ok u) : u.HasSegments := by
  unfold parseFile at h
  split at h
  · cases h
    exact ⟨_, rfl⟩
  · split at h
    · cases h
      exact ⟨_, rfl⟩
    · rename_i rest _
      unfold parseFileAuthority at h
      simp only at h
      split at h
      · cases h
        exact ⟨_, rfl⟩
      · cases hhost : parseFileHost (withoutBreaks (rest.takeWhile fun c => !endsAuthority true c)) with
        | error e =>
          rw [hhost] at h
          cases h
        | ok authority =>
          rw [hhost] at h
          cases h
          exact ⟨_, rfl⟩

/-- A URL with a scheme of a fixed form has segments. -/
theorem hasSegments_of_parse {s : String} {u : Url} (h : parse s = .ok u) (hspecial : isSpecial u.scheme = true) :
    u.HasSegments := by
  unfold parse at h
  split at h
  · cases h
  · rename_i scheme rest _
    split at h
    · exact parseFile_spec h
    · obtain ⟨rfl, hsegments⟩ := parseRest_spec h
      exact hsegments hspecial

def withoutEmptyLast (ss : List (List Char)) : List (List Char) :=
  if ss.getLast? = some [] then ss.dropLast else ss

theorem dropEmptyLast_concat {front : List (List Char)} (h : front ≠ []) : dropEmptyLast (front ++ [[]]) = front := by
  have hlength : 1 < (front ++ [[]]).length := by simpa [List.length_pos_iff] using h
  rw [dropEmptyLast, if_pos ⟨List.getLast?_concat, hlength⟩, List.dropLast_concat]

theorem withoutEmptyLast_concat (front : List (List Char)) : withoutEmptyLast (front ++ [[]]) = front := by
  rw [withoutEmptyLast, if_pos List.getLast?_concat, List.dropLast_concat]

/-- A segment is added behind the others, less an empty one at the end; of two empty ones, it takes the place of
both. -/
theorem addSegment_dropEmptyLast (ss : List (List Char)) (s : List Char) :
    addSegment (dropEmptyLast ss) s = if ss = [[], []] then [s] else withoutEmptyLast ss ++ [s] := by
  by_cases hlast : ss.getLast? = some []
  · obtain ⟨front, rfl⟩ := List.getLast?_eq_some_iff.mp hlast
    rw [withoutEmptyLast_concat]
    cases front with
    | nil => rfl
    | cons first front =>
      rw [dropEmptyLast_concat (List.cons_ne_nil first front), addSegment]
      simp
  -- no empty segment stands at the end, and so none stands alone
  · have hone : ss ≠ [[]] := by
      rintro rfl
      exact hlast rfl
    have htwo : ss ≠ [[], []] := by
      rintro rfl
      exact hlast rfl
    simp [addSegment, dropEmptyLast, withoutEmptyLast, hlast, hone, htwo]

/-- URLs that differ in their queries alone have different texts. -/
theorem eq_of_toText_eq {scheme : List Char} {authority : Option Authority} {path : UrlPath}
    {fragment : Option (List Char)} {q q' : List Char}
    (h : toText ⟨scheme, authority, path, some q, fragment⟩ = toText ⟨scheme, authority, path, some q', fragment⟩) :
    q = q' := by
  have hrender := String.ofList_injective h
  simp only [render, renderPart] at hrender
  exact (List.cons.inj (List.append_cancel_left (List.append_cancel_right hrender))).2

end Url

namespace Target

def endpoint : List Char :=
  ['w', 's']

def pairs (t : Target) (connectionType : String) : List (String × String) :=
  [("session_id", t.session.text), ("actor_id", t.actor.text), ("connection_type", connectionType)]

theorem url_of_segments {t : Target} {base : Url} {marked : Bool} {ss : List (List Char)} {connectionType : String}
    (hpath : base.path = .segments marked ss) (hrole : t.role.connectionType = some connectionType) :
    t.url base = .ok { base with
      path := .segments marked (Url.addSegment (Url.dropEmptyLast ss) endpoint)
      query := some (Url.formPairs (t.pairs connectionType)) } := by
  simp only [url, hrole, Url.push?, hpath]
  rfl

theorem url_of_plain {t : Target} {base : Url} {text : List Char} (hpath : base.path = .plain text)
    (hrole : t.role ≠ .solo) : t.url base = .error (.invalidBase base.toText) := by
  cases hrole' : t.role with
  | solo => exact absurd hrole' hrole
  | _ => simp [url, hrole', Role.connectionType, Url.push?, hpath]

/-- Roles are announced in different ways. -/
theorem role_eq_of_connectionType {r r' : Role} {connectionType : String} (h : r.connectionType = some connectionType)
    (h' : r'.connectionType = some connectionType) : r = r' := by
  have hsame := h.trans h'.symm
  cases r <;> cases r' <;> first | rfl | simp [Role.connectionType] at hsame

/-- The pairs of a query say which target it is for. -/
theorem eq_of_pairs_eq {t t' : Target} {c c' : String} (hrole : t.role.connectionType = some c)
    (hrole' : t'.role.connectionType = some c') (h : t.pairs c = t'.pairs c') : t = t' := by
  obtain ⟨⟨session⟩, ⟨actor⟩, role⟩ := t
  obtain ⟨⟨session'⟩, ⟨actor'⟩, role'⟩ := t'
  simp only [pairs, List.cons.injEq, Prod.mk.injEq, true_and, and_true] at h
  obtain ⟨rfl, rfl, rfl⟩ := h
  have hroles : role = role' := role_eq_of_connectionType hrole hrole'
  rw [hroles]

theorem connectionType_of_ne_solo {r : Role} (h : r ≠ .solo) : ∃ c, r.connectionType = some c := by
  cases r with
  | solo => exact absurd rfl h
  | host | peer | observer => exact ⟨_, rfl⟩

/-- Where there is a URL, its base has segments and its role is announced. -/
theorem of_url_eq_ok {t : Target} {base u : Url} (h : t.url base = .ok u) :
    ∃ marked ss c, base.path = .segments marked ss ∧ t.role.connectionType = some c := by
  unfold url at h
  split at h
  · cases h
  · rename_i c hrole
    cases hpath : base.path with
    | plain text =>
      simp only [Url.push?, hpath] at h
      cases h
    | segments marked ss => exact ⟨marked, ss, c, rfl, hrole⟩

/-- Two targets never have one URL over the same base. -/
theorem eq_of_url_eq {t t' : Target} {base u u' : Url} (h : t.url base = .ok u) (h' : t'.url base = .ok u')
    (htext : u.toText = u'.toText) : t = t' := by
  obtain ⟨marked, ss, c, hpath, hrole⟩ := of_url_eq_ok h
  obtain ⟨_, _, c', -, hrole'⟩ := of_url_eq_ok h'
  rw [url_of_segments hpath hrole] at h
  rw [url_of_segments hpath hrole'] at h'
  cases h
  cases h'
  have hquery : Url.formPairs (t.pairs c) = Url.formPairs (t'.pairs c') :=
    Url.eq_of_toText_eq htext
  have hpairs : some (t.pairs c) = some (t'.pairs c') := by
    rw [← Url.readForm?_formPairs, hquery, Url.readForm?_formPairs]
  exact eq_of_pairs_eq hrole hrole' (Option.some.inj hpairs)

/-- The URL of a channel carries its target. Over the base of a server it always exists; it keeps scheme, user, host,
port and fragment, its query is read as the three pairs of the target and nothing else, and so no two targets share
it. Its path is the one of the base, less an empty segment at the end, with the endpoint behind it, except where the
base has two empty segments and nothing else. A solo session has no URL, and a base without segments gives none. -/
theorem url_carries_target (base : Url) :
    (∀ text, Url.parse text = .ok base → base.scheme ∈ Url.webSchemes → ∃ ss, base.path = .segments false ss) ∧
    (∀ marked ss, base.path = .segments marked ss → ∀ t : Target, t.role ≠ .solo →
      ∃ u c q, t.url base = .ok u ∧ t.role.connectionType = some c ∧
        u.scheme = base.scheme ∧ u.authority = base.authority ∧ u.fragment = base.fragment ∧ u.query = some q ∧
        Url.readForm? q =
          some [("session_id", t.session.text), ("actor_id", t.actor.text), ("connection_type", c)] ∧ '#' ∉ q ∧
        (u.path = .segments marked (Url.withoutEmptyLast ss ++ [endpoint]) ↔ ss ≠ [[], []]) ∧
        (ss = [[], []] → u.path = .segments marked [endpoint])) ∧
    (∀ (t t' : Target) u u', t.url base = .ok u → t'.url base = .ok u' → (u.toText = u'.toText ↔ t = t')) ∧
    (∀ t : Target, t.role = .solo → t.url base = .error .solo) ∧
    ∀ text, base.path = .plain text → ∀ t : Target, t.role ≠ .solo →
      t.url base = .error (.invalidBase base.toText) := by
  refine ⟨?_, ?_, ?_, ?_, fun text hpath t hrole => url_of_plain hpath hrole⟩
  · intro text hparse hscheme
    have hspecial : ∀ scheme ∈ Url.webSchemes, Url.isSpecial scheme = true := by decide
    exact Url.hasSegments_of_parse hparse (hspecial _ hscheme)
  · intro marked ss hpath t hrole
    obtain ⟨c, hc⟩ := connectionType_of_ne_solo hrole
    refine ⟨_, c, _, url_of_segments hpath hc, hc, rfl, rfl, rfl, rfl, Url.readForm?_formPairs _,
      Url.not_mem_formPairs _, ?_, ?_⟩
    · rw [Url.addSegment_dropEmptyLast]
      by_cases hss : ss = [[], []]
      · subst hss
        simp [Url.withoutEmptyLast]
      · simp [hss]
    · rintro rfl
      rfl
  · intro t t' u u' h h'
    constructor
    · exact eq_of_url_eq h h'
    · rintro rfl
      cases h.symm.trans h'
      rfl
  · intro t hrole
    simp only [url, hrole, Role.connectionType]

theorem eq_ok_of_toOption {ε α : Type} {r : Except ε α} {a : α} (h : r.toOption = some a) : r = .ok a := by
  cases r with
  | error e => cases h
  | ok b => exact congrArg Except.ok (Option.some.inj h)

/-- Identifiers full of marks, over a base with a query of its own. -/
theorem url_carries_target_with_marks :
    let t : Target := ⟨⟨"a&actor_id=b c"⟩, ⟨"é+%26#\x00"⟩, .peer⟩
    let t' : Target := ⟨⟨"a"⟩, ⟨"b c"⟩, .peer⟩
    ∃ base u u' q, Url.parse "wss://h:8443/x//?session_id=y" = .ok base ∧ t.url base = .ok u ∧ t'.url base = .ok u' ∧
      u.authority = some ⟨[], [], .domain ['h'], some 8443⟩ ∧ u.path = .segments false [['x'], [], endpoint] ∧
      u.query = some q ∧ Url.readForm? q =
        some [("session_id", "a&actor_id=b c"), ("actor_id", "é+%26#\x00"), ("connection_type", "peer")] ∧
      u.toText ≠ u'.toText := by
  intro t t'
  have hparse : Url.parse "wss://h:8443/x//?session_id=y" = .ok ⟨['w', 's', 's'],
      some ⟨[], [], .domain ['h'], some 8443⟩, .segments false [['x'], [], []], some "session_id=y".toList, none⟩ :=
    eq_ok_of_toOption (by decide +kernel)
  obtain ⟨ss, hpath⟩ := (url_carries_target _).1 _ hparse (by decide)
  have htargets := (url_carries_target _).2.1 _ _ hpath
  cases hpath
  obtain ⟨u, c, q, hu, hrole, -, hauthority, -, hquery, hform, -, hsegments, -⟩ := htargets t nofun
  obtain ⟨u', -, -, hu', -⟩ := htargets t' nofun
  cases hrole
  refine ⟨_, u, u', q, hparse, hu, hu', hauthority, hsegments.mpr (by decide), hquery, hform, ?_⟩
  rw [Ne, (url_carries_target _).2.2.1 _ _ _ _ hu hu']
  decide

/-- The base `ws://h//` has two empty segments. Less the last one they are one empty segment, behind which the
endpoint should stand, but the endpoint is the only segment of the URL. -/
theorem empty_segment_gives_way :
    let t : Target := ⟨⟨"s"⟩, ⟨"a"⟩, .host⟩
    ∃ base u, Url.parse "ws://h//" = .ok base ∧ base.scheme ∈ Url.webSchemes ∧ t.url base = .ok u ∧
      base.path = .segments false [[], []] ∧ Url.withoutEmptyLast [[], []] ++ [endpoint] = [[], endpoint] ∧
      u.path = .segments false [endpoint] ∧
      u.toText = "ws://h/ws?session_id=s&actor_id=a&connection_type=host" := by
  intro t
  have hparse : Url.parse "ws://h//" =
      .ok ⟨['w', 's'], some ⟨[], [], .domain ['h'], none⟩, .segments false [[], []], none, none⟩ :=
    eq_ok_of_toOption (by decide +kernel)
  exact ⟨_, _, hparse, by decide, url_of_segments rfl rfl, rfl, rfl, rfl, by decide +kernel⟩

end Target

end PaddleLink
