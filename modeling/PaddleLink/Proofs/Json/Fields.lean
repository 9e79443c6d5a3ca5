import PaddleLink.Json.Record
import PaddleLink.Proofs.Json.Render

namespace PaddleLink.Json

variable {α β : Type}

mutual

/-- Everybody gets past a value that is read to its end. -/
theorem skipFault_toTree (v : Value) : v.toTree.skipFault = none := by
  cases v with
  | null | bool | integer | float | string => rfl
  | array items =>
    rw [Value.toTree, Tree.skipFault]
    exact skipItems_itemTrees items
  | object members =>
    rw [Value.toTree, Tree.skipFault]
    exact skipMembers_memberTrees members

theorem skipItems_itemTrees (vs : List Value) : skipItems (itemTrees vs) .closed = none := by
  cases vs with
  | nil => rfl
  | cons v vs =>
    rw [itemTrees, skipItems, skipFault_toTree v]
    exact skipItems_itemTrees vs

theorem skipMembers_memberTrees (ms : List (String × Value)) : skipMembers (memberTrees ms) .closed = none := by
  cases ms with
  | nil => rfl
  | cons m ms =>
    obtain ⟨k, v⟩ := m
    rw [memberTrees, skipMembers, skipFault_toTree v]
    exact skipMembers_memberTrees ms

end

theorem member?_memberTrees (ms : List (String × Value)) (name : String) :
    member? (memberTrees ms) name = (ms.lookup name).map Value.toTree := by
  induction ms with
  | nil => rfl
  | cons m ms ih =>
    obtain ⟨k, v⟩ := m
    by_cases hk : k = name
    · subst hk
      simp [member?, memberTrees]
    · have hk' : (name == k) = false := by simpa using Ne.symm hk
      rw [List.lookup_cons, hk', ← ih]
      simp [member?, memberTrees, hk]

theorem lookup_tail {k name : String} {v w : Value} {ms : List (String × Value)}
    (hnames : (((k, v) :: ms).map Prod.fst).Nodup) (h : ms.lookup name = some w) :
    ((k, v) :: ms).lookup name = some w := by
  have hmem : name ∈ ms.map Prod.fst := by
    obtain ⟨before, after, rfl, -⟩ := List.lookup_eq_some_iff.mp h
    simp
  have hk : (name == k) = false := by
    have hnew := (List.nodup_cons.mp hnames).1
    simp only [beq_eq_false_iff_ne]
    rintro rfl
    exact hnew hmem
  rw [List.lookup_cons, hk]
  exact h

theorem lookup_append_right {name : String} {w : Value} {before ms : List (String × Value)}
    (hnames : ((before ++ ms).map Prod.fst).Nodup) (h : ms.lookup name = some w) :
    (before ++ ms).lookup name = some w := by
  induction before with
  | nil => exact h
  | cons m before ih =>
    have hrest := (List.nodup_cons.mp hnames).2
    exact lookup_tail hnames (ih hrest)

/-- A record can be built where `look` finds its fields, and none of them is refused. -/
structure Record.Reads (r : Record α) (look : String → Option Tree) (a : α) : Prop where
  build : r.build look = .ok a
  checks : ∀ f ∈ r.fields, ∀ t, look f.name = some t → f.check t = .ok ()

variable {look : String → Option Tree}

theorem reads_seq {f : Record (α → β)} {r : Record α} {g : α → β} {a : α} (hf : f.Reads look g)
    (hr : r.Reads look a) : (f <*> r).Reads look (g a) where
  build := by
    change (do let g ← f.build look; let a ← r.build look; return g a) = _
    rw [hf.build, hr.build]
    rfl
  checks := by
    intro field hfield
    rcases List.mem_append.mp (hfield : field ∈ f.fields ++ r.fields) with h | h
    · exact hf.checks field h
    · exact hr.checks field h

theorem reads_map {r : Record α} {a : α} (f : α → β) (hr : r.Reads look a) : (f <$> r).Reads look (f a) :=
  reads_seq ⟨rfl, fun _ h => (List.not_mem_nil h).elim⟩ hr

theorem check_of_ok {d : Decoder α} {t : Tree} {a : α} (hd : d t = .ok a) :
    ((d t).map fun _ => ()) = (.ok () : Except Problem Unit) := by
  rw [hd]
  rfl

theorem reads_field {name : String} {d : Decoder α} {t : Tree} {a : α} (hlook : look name = some t)
    (hd : d t = .ok a) : (field name d).Reads look a where
  build := by simp only [field, hlook, hd]
  checks := by
    intro f hf t' ht
    cases List.mem_singleton.mp hf
    cases hlook.symm.trans ht
    exact check_of_ok hd

theorem reads_fieldOr {name : String} {absent : α} {d : Decoder α} {t : Tree} {a : α}
    (hlook : look name = some t) (hd : d t = .ok a) : (fieldOr name absent d).Reads look a where
  build := by simp only [fieldOr, hlook, hd]
  checks := by
    intro f hf t' ht
    cases List.mem_singleton.mp hf
    cases hlook.symm.trans ht
    exact check_of_ok hd

theorem reads_fieldOr_absent {name : String} {absent : α} {d : Decoder α} (hlook : look name = none) :
    (fieldOr name absent d).Reads look absent where
  build := by simp only [fieldOr, hlook]
  checks := by
    intro f hf t ht
    cases List.mem_singleton.mp hf
    cases hlook.symm.trans ht

/-- The members of an object with different names pass the checks of the fields that they are. -/
theorem checkMembers_memberTrees {fields : List Field} {ms : List (String × Value)}
    (hchecks : ∀ f ∈ fields, ∀ v, ms.lookup f.name = some v → f.check v.toTree = .ok ())
    (hnames : (ms.map Prod.fst).Nodup) {seen : List String} (hseen : ∀ m ∈ ms, m.1 ∉ seen) :
    checkMembers fields seen (memberTrees ms) = .ok () := by
  induction ms generalizing seen with
  | nil => rfl
  | cons m ms ih =>
    obtain ⟨k, v⟩ := m
    have hrest (seen' : List String) (hseen' : ∀ m ∈ ms, m.1 ∉ seen') :
        checkMembers fields seen' (memberTrees ms) = .ok () := by
      refine ih ?_ (List.nodup_cons.mp hnames).2 hseen'
      intro f hf w hw
      exact hchecks f hf w (lookup_tail hnames hw)
    have hold : ∀ m ∈ ms, m.1 ∉ seen := fun m hm => hseen m (List.mem_cons_of_mem _ hm)
    rw [memberTrees, checkMembers]
    simp only [lexeme, bind, Except.bind]
    cases hfind : fields.find? (fun f => f.name == k) with
    | none =>
      simp only [skipFault_toTree, noFault]
      exact hrest seen hold
    | some f =>
      have hname : f.name = k := by simpa using List.find?_some hfind
      have hcheck : f.check v.toTree = .ok () := by
        refine hchecks f (List.mem_of_find?_eq_some hfind) v ?_
        simp [hname]
      have hnew : seen.contains k = false := by
        simpa using hseen (k, v) (List.mem_cons_self ..)
      simp only [hnew, hcheck]
      refine hrest (k :: seen) ?_
      intro m hm hmem
      rcases List.mem_cons.mp hmem with he | hmem
      · have hdistinct := (List.nodup_cons.mp hnames).1
        exact hdistinct (List.mem_map.mpr ⟨m, hm, he⟩)
      · exact hold m hm hmem

theorem checkMembers_of_reads {r : Record α} {ms : List (String × Value)} {a : α}
    (hnames : (ms.map Prod.fst).Nodup) (h : r.Reads (member? (memberTrees ms)) a) :
    checkMembers r.fields [] (memberTrees ms) = .ok () := by
  refine checkMembers_memberTrees ?_ hnames (fun _ _ => List.not_mem_nil)
  intro f hf v hv
  refine h.checks f hf _ ?_
  rw [member?_memberTrees, hv]
  rfl

/-- A record is read from an object that holds its fields. -/
theorem decode_object {r : Record α} {ms : List (String × Value)} {a : α} (name : String)
    (hnames : (ms.map Prod.fst).Nodup) (h : r.Reads (member? (memberTrees ms)) a) :
    r.decode name (Value.object ms).toTree = .ok a := by
  simp only [Value.toTree, Record.decode, checkMembers_of_reads hnames h, Ending.readFault, noFault, h.build]
  rfl

theorem itemTrees_map (f : β → Value) (bs : List β) : itemTrees (bs.map f) = bs.map fun b => (f b).toTree := by
  induction bs with
  | nil => rfl
  | cons b bs ih => simp [itemTrees, ih]

theorem list_toTree {d : Decoder α} {f : α → Value} (as : List α) (h : ∀ a ∈ as, d (f a).toTree = .ok a) :
    list d (Value.array (as.map f)).toTree = .ok as := by
  have hitems : (as.map fun a => (f a).toTree).mapM d = .ok as := by
    induction as with
    | nil => rfl
    | cons a as ih =>
      obtain ⟨ha, has⟩ := List.forall_mem_cons.mp h
      rw [List.map_cons, List.mapM_cons, ha, ih has]
      rfl
  rw [Value.toTree, itemTrees_map]
  simp only [list, hitems, bind, Except.bind, noFault, Ending.readFault, pure, Except.pure]

theorem optional_some {d : Decoder α} {t : Tree} {a : α} (ht : t ≠ .null) (h : d t = .ok a) :
    optional d t = .ok (some a) := by
  cases t with
  | null => exact absurd rfl ht
  | _ => simp only [optional, h, Except.map]

theorem bind_ok {ε : Type} {x : Except ε α} {f : α → Except ε β} {b : β} (h : x >>= f = .ok b) :
    ∃ a, x = .ok a ∧ f a = .ok b := by
  cases x with
  | error p => cases h
  | ok a => exact ⟨a, rfl, h⟩

theorem map_ok {ε : Type} {x : Except ε α} {f : α → β} {b : β} (h : x.map f = .ok b) : ∃ a, x = .ok a ∧ f a = b := by
  cases x with
  | error p => cases h
  | ok a => exact ⟨a, rfl, Except.ok.inj h⟩

/-- What is read from a text is read from its tree. -/
theorem decode_of_run {d : Decoder α} {s : String} {a : α} (h : d.run s = .ok a) :
    d (Document.ofChars s.toList).root = .ok a := by
  obtain ⟨b, hb, h⟩ := bind_ok h
  split at h
  · cases h
  · cases h
    exact hb

theorem Record.build_seq {f : Record (α → β)} {r : Record α} {b : β} (h : (f <*> r).build look = .ok b) :
    ∃ g a, f.build look = .ok g ∧ r.build look = .ok a ∧ g a = b := by
  change (do let g ← f.build look; let a ← r.build look; return g a) = _ at h
  obtain ⟨g, hg, h⟩ := bind_ok h
  obtain ⟨a, ha, h⟩ := bind_ok h
  exact ⟨g, a, hg, ha, Except.ok.inj h⟩

theorem Record.build_map {r : Record α} {f : α → β} {b : β} (h : (f <$> r).build look = .ok b) :
    ∃ a, r.build look = .ok a ∧ f a = b := by
  obtain ⟨g, a, hg, ha, hb⟩ := Record.build_seq (f := Record.pure f) h
  cases hg
  exact ⟨a, ha, hb⟩

theorem build_field {name : String} {d : Decoder α} {a : α} (h : (field name d).build look = .ok a) :
    ∃ t, look name = some t ∧ d t = .ok a := by
  simp only [field] at h
  split at h
  · rename_i t ht
    exact ⟨t, ht, h⟩
  · cases h

theorem build_fieldOr {name : String} {absent : α} {d : Decoder α} {a : α}
    (h : (fieldOr name absent d).build look = .ok a) :
    look name = none ∧ a = absent ∨ ∃ t, look name = some t ∧ d t = .ok a := by
  simp only [fieldOr] at h
  split at h
  · rename_i t ht
    exact .inr ⟨t, ht, h⟩
  · rename_i hnone
    cases h
    exact .inl ⟨hnone, rfl⟩

end PaddleLink.Json
