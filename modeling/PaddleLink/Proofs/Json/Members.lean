import Mathlib.Data.List.Forall2
import PaddleLink.Proofs.Json.Fields

namespace PaddleLink.Json

variable {α : Type}

def isNamed (name : String) (m : Name × Tree) : Bool :=
  match m.1 with
  | .ok n => n == name
  | .error _ => false

theorem member?_eq (members : List (Name × Tree)) (name : String) :
    member? members name = (members.filter (isNamed name)).head?.map Prod.snd := by
  rw [List.head?_filter]
  rfl

def Passes (fields : List Field) (m : Name × Tree) : Prop :=
  ∃ name, m.1 = .ok name ∧
    match fields.find? fun f => f.name == name with
    | some f => f.check m.2 = .ok ()
    | none => m.2.skipFault = none

theorem passes_of_field {fields : List Field} {name : String} {t : Tree} {f : Field}
    (h : fields.find? (fun f => f.name == name) = some f) : Passes fields (.ok name, t) ↔ f.check t = .ok () := by
  simp [Passes, h]

theorem passes_of_other {fields : List Field} {name : String} {t : Tree}
    (h : fields.find? (fun f => f.name == name) = none) : Passes fields (.ok name, t) ↔ t.skipFault = none := by
  simp [Passes, h]

/-- A field stands there at most once, and not at all if it was met before. -/
def MetOnce (seen : List String) (members : List (Name × Tree)) (f : Field) : Prop :=
  (f.name ∈ seen → members.filter (isNamed f.name) = []) ∧ (members.filter (isNamed f.name)).length ≤ 1

theorem noFault_eq_ok_iff {f : Option Fault} : noFault f = .ok () ↔ f = none := by
  cases f <;> simp [noFault]

theorem metOnce_cons_of_ne {seen : List String} {members : List (Name × Tree)} {f : Field} {name : String} {t : Tree}
    (h : f.name ≠ name) : MetOnce seen ((.ok name, t) :: members) f ↔ MetOnce seen members f := by
  have hother : ¬isNamed f.name (.ok name, t) = true := by simpa [isNamed] using Ne.symm h
  rw [MetOnce, MetOnce, List.filter_cons_of_neg hother]

/-- The first member of a name is kept in mind. -/
theorem metOnce_cons {seen : List String} {members : List (Name × Tree)} {f : Field} {name : String} {t : Tree} :
    MetOnce seen ((.ok name, t) :: members) f ↔
      (f.name = name → name ∉ seen) ∧ MetOnce (name :: seen) members f := by
  by_cases h : f.name = name
  · subst h
    have hnamed : isNamed f.name (.ok f.name, t) = true := by simp [isNamed]
    simp only [MetOnce, List.filter_cons_of_pos hnamed]
    cases members.filter (isNamed f.name) <;> simp
  · rw [metOnce_cons_of_ne h, MetOnce, MetOnce, List.mem_cons]
    simp [h]

/-- The members of a record pass exactly when each of them does and no field stands there twice. -/
theorem checkMembers_eq_ok_iff {fields : List Field} {seen : List String} {members : List (Name × Tree)} :
    checkMembers fields seen members = .ok () ↔
      (∀ m ∈ members, Passes fields m) ∧ ∀ f ∈ fields, MetOnce seen members f := by
  induction members generalizing seen with
  | nil => simp [checkMembers, MetOnce]
  | cons m members ih =>
    obtain ⟨name, t⟩ := m
    cases name with
    | error fault => simp [checkMembers, lexeme, bind, Except.bind, Passes]
    | ok name =>
      rw [List.forall_mem_cons]
      cases hfind : fields.find? (fun f => f.name == name) with
      | none =>
        have hother : ∀ f ∈ fields, f.name ≠ name := by simpa using hfind
        have hmet : (∀ f ∈ fields, MetOnce seen ((.ok name, t) :: members) f) ↔ ∀ f ∈ fields, MetOnce seen members f :=
          forall₂_congr fun f hf => metOnce_cons_of_ne (hother f hf)
        rw [hmet, passes_of_other hfind, and_assoc, ← ih, ← noFault_eq_ok_iff]
        simp only [checkMembers, lexeme, bind, Except.bind, hfind]
        cases noFault t.skipFault <;> simp
      | some f₀ =>
        have hname : f₀.name = name := by simpa using List.find?_some hfind
        have hmem : f₀ ∈ fields := List.mem_of_find?_eq_some hfind
        have hmet : (∀ f ∈ fields, MetOnce seen ((.ok name, t) :: members) f) ↔
            name ∉ seen ∧ ∀ f ∈ fields, MetOnce (name :: seen) members f := by
          simp only [metOnce_cons]
          exact ⟨fun h => ⟨(h f₀ hmem).1 hname, fun f hf => (h f hf).2⟩, fun h f hf => ⟨fun _ => h.1, h.2 f hf⟩⟩
        rw [hmet, passes_of_field hfind]
        simp only [checkMembers, lexeme, bind, Except.bind, hfind, List.contains_iff_mem]
        by_cases hseen : name ∈ seen
        · simp [hseen, throw, throwThe, MonadExceptOf.throw]
        · rw [if_neg hseen, and_comm (a := name ∉ seen), ← and_assoc]
          cases hcheck : f₀.check t with
          | error p => simp
          | ok u => simp [ih, hseen]

theorem isNamed_iff {name : String} {m : Name × Tree} : isNamed name m = true ↔ m.1 = .ok name := by
  obtain ⟨n, t⟩ := m
  cases n <;> simp [isNamed]

theorem mem_of_member?_eq_some {members : List (Name × Tree)} {name : String} {t : Tree}
    (h : member? members name = some t) : (.ok name, t) ∈ members := by
  rw [member?_eq] at h
  obtain ⟨m, hm, rfl⟩ := Option.map_eq_some_iff.mp h
  obtain ⟨hmem, hnamed⟩ := List.mem_filter.mp (List.mem_of_head? hm)
  have hname : m.1 = .ok name := isNamed_iff.mp hnamed
  rw [← hname]
  exact hmem

theorem filter_isNamed_of_mem {members : List (Name × Tree)} {name : String} {t : Tree}
    (honce : (members.filter (isNamed name)).length ≤ 1) (hm : (.ok name, t) ∈ members) :
    members.filter (isNamed name) = [(.ok name, t)] := by
  have hfound : ((.ok name, t) : Name × Tree) ∈ members.filter (isNamed name) :=
    List.mem_filter.mpr ⟨hm, isNamed_iff.mpr rfl⟩
  obtain ⟨m, hone⟩ := List.length_eq_one_iff.mp (Nat.le_antisymm honce (List.length_pos_of_mem hfound))
  rw [hone, List.mem_singleton] at hfound
  rw [hone, hfound]

/-- A field that stands there once is the only member of its name. -/
theorem filter_isNamed_iff {members : List (Name × Tree)} {name : String} {t : Tree} :
    members.filter (isNamed name) = [(.ok name, t)] ↔
      (members.filter (isNamed name)).length ≤ 1 ∧ member? members name = some t := by
  constructor
  · intro h
    rw [member?_eq, h]
    exact ⟨Nat.le_refl 1, rfl⟩
  · rintro ⟨honce, hmember⟩
    exact filter_isNamed_of_mem honce (mem_of_member?_eq_some hmember)

/-- A name that is there once is looked up where it is. -/
theorem member?_eq_some_of_mem {members : List (Name × Tree)} {name : String} {t : Tree}
    (honce : (members.filter (isNamed name)).length ≤ 1) (hm : (.ok name, t) ∈ members) :
    member? members name = some t :=
  (filter_isNamed_iff.mp (filter_isNamed_of_mem honce hm)).2

theorem item?_cons_of_ne {f : Field} {name : String} (h : f.name ≠ name) (fields : List Field) (t : Tree)
    (items : List Tree) : item? (f :: fields) (t :: items) name = item? fields items name := by
  simp [item?, h]

theorem item?_nil (fields : List Field) (name : String) : item? fields [] name = none := by
  simp [item?]

theorem item?_self (f : Field) (fields : List Field) (t : Tree) (items : List Tree) :
    item? (f :: fields) (t :: items) f.name = some t := by
  simp [item?]

theorem checkItems_nil_iff {expected : String} {items : List Tree} {ending : Ending} {given : Nat} :
    checkItems expected ending given [] items = .ok () ↔ items = [] ∧ ending = .closed := by
  cases items with
  | nil => cases ending <;> simp [checkItems, noFault, Ending.readFault]
  | cons t items =>
    cases t with
    | stray b =>
      obtain ⟨read, skip⟩ := b
      cases read <;> simp [checkItems]
    | _ => simp [checkItems]

theorem text_eq_ok_iff {t : Tree} {s : String} : text t = .ok s ↔ t = .string (.ok s) := by
  unfold text
  split
  · simp
  · rename_i hother
    constructor
    · intro h
      cases h
    · intro h
      exact absurd h (hother s)

theorem readFault_eq_none_iff {ending : Ending} : ending.readFault = none ↔ ending = .closed := by
  cases ending <;> simp [Ending.readFault]

theorem mapM_eq_ok_iff {ε β : Type} {f : β → Except ε α} {items : List β} {as : List α} :
    items.mapM f = .ok as ↔ List.Forall₂ (fun b a => f b = .ok a) items as := by
  induction items generalizing as with
  | nil =>
    cases as <;> simp [pure, Except.pure]
  | cons t items ih =>
    rw [List.mapM_cons]
    constructor
    · intro h
      obtain ⟨a, ha, h⟩ := bind_ok h
      obtain ⟨as', has, h⟩ := bind_ok h
      cases h
      exact .cons ha (ih.mp has)
    · intro h
      cases h with
      | cons ha hrest =>
        rw [ha, ih.mpr hrest]
        rfl

theorem list_eq_ok_iff {d : Decoder α} {t : Tree} {as : List α} :
    list d t = .ok as ↔ ∃ items, t = .array items .closed ∧ List.Forall₂ (fun t a => d t = .ok a) items as := by
  constructor
  · intro h
    cases t with
    | array items ending =>
      obtain ⟨as', has, h⟩ := bind_ok h
      obtain ⟨_, hending, h⟩ := bind_ok h
      cases h
      rw [noFault_eq_ok_iff, readFault_eq_none_iff] at hending
      exact ⟨items, by rw [hending], mapM_eq_ok_iff.mp has⟩
    | _ => cases h
  · rintro ⟨items, rfl, has⟩
    simp only [list, mapM_eq_ok_iff.mpr has, bind, Except.bind, Ending.readFault, noFault]
    rfl

/-- A text is read as the value that its tree is read as, if nothing but white space follows it. -/
theorem run_eq_ok_iff {d : Decoder α} {s : String} {a : α} :
    d.run s = .ok a ↔ d (Document.ofString s).root = .ok a ∧ (Document.ofString s).trailing = false := by
  simp only [Decoder.run, bind, Except.bind]
  cases d (Document.ofString s).root with
  | error p => simp
  | ok b => cases (Document.ofString s).trailing <;> simp [throw, throwThe, MonadExceptOf.throw, pure, Except.pure]

end PaddleLink.Json
