import PaddleLink.Proofs.Json.Members

/-!
Which values are records. An object is one when its fields are found among its members, each of them once at most, and
an array when they are found among its elements, place by place.
-/

namespace PaddleLink.Json

variable {α β : Type}

/-- Members among which some fields can be looked up: all have names, none of the fields is there twice, and what is no
field can be passed over. -/
structure OneEach (names : List String) (members : List (Name × Tree)) : Prop where
  named : ∀ m ∈ members, ∃ name, m.1 = .ok name
  once : ∀ name ∈ names, (members.filter (isNamed name)).length ≤ 1
  others : ∀ m ∈ members, (∀ name ∈ names, isNamed name m = false) → m.2.skipFault = none

theorem find?_name_eq {fields : List Field} (hnames : (fields.map Field.name).Nodup) {f : Field} (hf : f ∈ fields) :
    (fields.find? fun g => g.name == f.name) = some f := by
  induction fields with
  | nil => cases hf
  | cons g fields ih =>
    obtain ⟨hnew, hrest⟩ := List.nodup_cons.mp hnames
    rcases List.mem_cons.mp hf with rfl | hmem
    · simp
    · have hne : g.name ≠ f.name := fun he => hnew (he ▸ List.mem_map_of_mem hmem)
      rw [List.find?_cons_of_neg (by simpa using hne)]
      exact ih hrest hmem

/-- The members of an object pass exactly when the fields can be looked up among them and are read where they are. -/
theorem checkMembers_iff {fields : List Field} (hnames : (fields.map Field.name).Nodup) {members : List (Name × Tree)} :
    checkMembers fields [] members = .ok () ↔ OneEach (fields.map Field.name) members ∧
      ∀ f ∈ fields, ∀ t, member? members f.name = some t → f.check t = .ok () := by
  have honce : (∀ f ∈ fields, MetOnce [] members f) ↔
      ∀ name ∈ fields.map Field.name, (members.filter (isNamed name)).length ≤ 1 := by
    simp [MetOnce]
  rw [checkMembers_eq_ok_iff, honce]
  constructor
  · rintro ⟨hpasses, honce⟩
    refine ⟨⟨?_, honce, ?_⟩, ?_⟩
    · intro m hm
      obtain ⟨name, hname, -⟩ := hpasses m hm
      exact ⟨name, hname⟩
    · rintro ⟨_, t⟩ hm hother
      obtain ⟨name, rfl, -⟩ := hpasses _ hm
      apply (passes_of_other ?_).mp (hpasses _ hm)
      apply List.find?_eq_none.mpr
      intro f hf hname
      have hnot := hother f.name (List.mem_map_of_mem hf)
      rw [beq_iff_eq.mp hname, isNamed_iff.mpr rfl] at hnot
      cases hnot
    · intro f hf t ht
      exact (passes_of_field (find?_name_eq hnames hf)).mp (hpasses _ (mem_of_member?_eq_some ht))
  · rintro ⟨honly, hchecks⟩
    refine ⟨?_, honly.once⟩
    rintro ⟨_, t⟩ hm
    obtain ⟨name, rfl⟩ := honly.named _ hm
    cases hfind : fields.find? fun f => f.name == name with
    | none =>
      apply (passes_of_other hfind).mpr
      apply honly.others _ hm
      intro name' hname'
      obtain ⟨f, hf, rfl⟩ := List.mem_map.mp hname'
      have hne : ¬(f.name == name) = true := List.find?_eq_none.mp hfind f hf
      rw [Bool.eq_false_iff, ne_eq, isNamed_iff]
      rintro ⟨⟩
      exact hne (beq_self_eq_true _)
    | some f =>
      have hf : f ∈ fields := List.mem_of_find?_eq_some hfind
      have hname : f.name = name := by simpa using List.find?_some hfind
      subst hname
      apply (passes_of_field hfind).mpr
      apply hchecks f hf
      exact member?_eq_some_of_mem (honly.once _ (List.mem_map_of_mem hf)) hm

theorem checkItems_cons_cons_iff {expected : String} {f : Field} {fields : List Field} {t : Tree} {items : List Tree}
    {ending : Ending} {given : Nat} :
    checkItems expected ending given (f :: fields) (t :: items) = .ok () ↔
      f.check t = .ok () ∧ checkItems expected ending (given + 1) fields items = .ok () := by
  simp only [checkItems, bind, Except.bind]
  cases f.check t <;> simp

theorem checkItems_cons_nil_iff {expected : String} {f : Field} {fields : List Field} {ending : Ending} {given : Nat} :
    checkItems expected ending given (f :: fields) [] = .ok () ↔
      ending = .closed ∧ f.optional = true ∧ checkItems expected ending (given + 1) fields [] = .ok () := by
  rw [← readFault_eq_none_iff, ← noFault_eq_ok_iff]
  simp only [checkItems, bind, Except.bind]
  cases noFault ending.readFault with
  | error p => simp
  | ok u => cases f.optional <;> simp [throw, throwThe, MonadExceptOf.throw]

/-- The elements of an array pass exactly when they are not too many, only fields that may be left out are left out at
the end, and the others are read in their places. -/
theorem checkItems_iff {fields : List Field} (hnames : (fields.map Field.name).Nodup) {expected : String}
    {items : List Tree} {ending : Ending} {given : Nat} :
    checkItems expected ending given fields items = .ok () ↔
      ending = .closed ∧ items.length ≤ fields.length ∧ (∀ f ∈ fields.drop items.length, f.optional = true) ∧
        ∀ f ∈ fields, ∀ t, item? fields items f.name = some t → f.check t = .ok () := by
  induction fields generalizing items given with
  | nil =>
    rw [checkItems_nil_iff]
    cases items <;> simp
  | cons f fields ih =>
    obtain ⟨hnew, hrest⟩ := List.nodup_cons.mp hnames
    cases items with
    | nil =>
      rw [checkItems_cons_nil_iff, ih hrest]
      simp only [item?_nil, reduceCtorEq, false_implies, implies_true, List.length_nil, List.drop_zero,
        List.forall_mem_cons, Nat.zero_le, true_and, and_true]
      tauto
    | cons t items =>
      have hlater : ∀ g ∈ fields, item? (f :: fields) (t :: items) g.name = item? fields items g.name := by
        intro g hg
        apply item?_cons_of_ne
        intro he
        exact hnew (he ▸ List.mem_map_of_mem hg)
      have hchecks : (∀ g ∈ f :: fields, ∀ u, item? (f :: fields) (t :: items) g.name = some u → g.check u = .ok ()) ↔
          f.check t = .ok () ∧ ∀ g ∈ fields, ∀ u, item? fields items g.name = some u → g.check u = .ok () := by
        rw [List.forall_mem_cons, item?_self]
        simp only [Option.some.injEq, forall_eq']
        apply and_congr_right
        intro _
        apply forall₂_congr
        intro g hg
        rw [hlater g hg]
      rw [checkItems_cons_cons_iff, ih hrest, hchecks]
      simp only [List.length_cons, List.drop_succ_cons, Nat.add_le_add_iff_right]
      tauto

/-- A value is read as a record when it is an object with the fields among its members, or an array with the fields in
their places, those at the end left out that may be. -/
theorem Record.decode_eq_ok_iff {r : Record α} (hnames : (r.fields.map Field.name).Nodup) {name : String} {t : Tree}
    {a : α} :
    r.decode name t = .ok a ↔
      (∃ members, t = .object members .closed ∧ OneEach (r.fields.map Field.name) members ∧
        r.Reads (member? members) a) ∨
      ∃ items, t = .array items .closed ∧ items.length ≤ r.fields.length ∧
        (∀ f ∈ r.fields.drop items.length, f.optional = true) ∧ r.Reads (item? r.fields items) a := by
  constructor
  · intro h
    cases t with
    | object members ending =>
      obtain ⟨_, hmembers, h⟩ := bind_ok h
      obtain ⟨_, hending, hbuild⟩ := bind_ok h
      rw [noFault_eq_ok_iff, readFault_eq_none_iff] at hending
      obtain ⟨honly, hchecks⟩ := (checkMembers_iff hnames).mp hmembers
      exact .inl ⟨members, by rw [hending], honly, hbuild, hchecks⟩
    | array items ending =>
      obtain ⟨_, hitems, hbuild⟩ := bind_ok h
      obtain ⟨hending, hlength, hoptional, hchecks⟩ := (checkItems_iff hnames).mp hitems
      exact .inr ⟨items, by rw [hending], hlength, hoptional, hbuild, hchecks⟩
    | _ => cases h
  · rintro (⟨members, rfl, honly, hreads⟩ | ⟨items, rfl, hlength, hoptional, hreads⟩)
    · have hmembers := (checkMembers_iff hnames).mpr ⟨honly, hreads.checks⟩
      simp only [Record.decode, hmembers, Ending.readFault, noFault, hreads.build, bind, Except.bind]
    · have hitems : checkItems (countFields name r.fields.length) .closed 0 r.fields items = .ok () :=
        (checkItems_iff hnames).mpr ⟨rfl, hlength, hoptional, hreads.checks⟩
      simp only [Record.decode, hitems, hreads.build, bind, Except.bind]

section

variable {look : String → Option Tree}

theorem reads_seq_iff {f : Record (α → β)} {r : Record α} {b : β} :
    (f <*> r).Reads look b ↔ ∃ g a, f.Reads look g ∧ r.Reads look a ∧ g a = b := by
  constructor
  · intro h
    obtain ⟨g, a, hg, ha, rfl⟩ := Record.build_seq h.build
    have hfields : ∀ field ∈ f.fields ++ r.fields, ∀ t, look field.name = some t → field.check t = .ok () := h.checks
    obtain ⟨hf, hr⟩ := List.forall_mem_append.mp hfields
    exact ⟨g, a, ⟨hg, hf⟩, ⟨ha, hr⟩, rfl⟩
  · rintro ⟨g, a, hf, hr, rfl⟩
    exact reads_seq hf hr

theorem reads_map_iff {r : Record α} {f : α → β} {b : β} : (f <$> r).Reads look b ↔ ∃ a, r.Reads look a ∧ f a = b := by
  constructor
  · intro h
    obtain ⟨g, a, hg, hr, rfl⟩ := (reads_seq_iff (f := Record.pure f)).mp h
    cases hg.build
    exact ⟨a, hr, rfl⟩
  · rintro ⟨a, hr, rfl⟩
    exact reads_map f hr

theorem reads_field_iff {name : String} {d : Decoder α} {a : α} :
    (field name d).Reads look a ↔ ∃ t, look name = some t ∧ d t = .ok a := by
  constructor
  · intro h
    exact build_field h.build
  · rintro ⟨t, hlook, hd⟩
    exact reads_field hlook hd

theorem reads_fieldOr_iff {name : String} {absent : α} {d : Decoder α} {a : α} :
    (fieldOr name absent d).Reads look a ↔ look name = none ∧ a = absent ∨ ∃ t, look name = some t ∧ d t = .ok a := by
  constructor
  · intro h
    exact build_fieldOr h.build
  · rintro (⟨hlook, rfl⟩ | ⟨t, hlook, hd⟩)
    · exact reads_fieldOr_absent hlook
    · exact reads_fieldOr hlook hd

end

theorem boolean_eq_ok_iff {t : Tree} {b : Bool} : boolean t = .ok b ↔ t = .bool b := by
  unfold boolean
  split
  · simp
  · rename_i hother
    constructor
    · intro h
      cases h
    · intro h
      exact absurd h (hother b)

theorem natural_eq_ok_iff {bound : Nat} {expected : String} {t : Tree} {n : Nat} :
    natural bound expected t = .ok n ↔ n < bound ∧ t = .number (.ok (.integer n)) := by
  unfold natural
  split
  · rename_i i
    by_cases hi : 0 ≤ i ∧ i < bound
    · rw [if_pos hi]
      simp only [Except.ok.injEq, Tree.number.injEq, Number.integer.injEq]
      omega
    · rw [if_neg hi]
      simp only [reduceCtorEq, Tree.number.injEq, Except.ok.injEq, Number.integer.injEq, false_iff]
      omega
  · rename_i hother
    constructor
    · intro h
      cases h
    · rintro ⟨-, h⟩
      exact absurd h (hother n)

theorem uint64_eq_ok_iff {t : Tree} {n : UInt64} : uint64 t = .ok n ↔ t = .number (.ok (.integer n.toNat)) := by
  constructor
  · intro h
    obtain ⟨k, hk, rfl⟩ := map_ok h
    obtain ⟨hbound, rfl⟩ := natural_eq_ok_iff.mp hk
    rw [UInt64.toNat_ofNat_of_lt' hbound]
  · rintro rfl
    rw [uint64, natural_eq_ok_iff.mpr ⟨n.toNat_lt, rfl⟩]
    simp [Except.map]

end PaddleLink.Json
