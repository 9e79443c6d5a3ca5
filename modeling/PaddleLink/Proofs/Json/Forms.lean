import PaddleLink.Proofs.Json.Members
import PaddleLink.Proofs.Json.Writing

/-!
Records in every form in which they may be written: as an object with the fields in any order among others, without
the fields that can be done without, or as an array of the fields in their declared order. All of them are read as
the same value.
-/

namespace PaddleLink.Json

variable {α β : Type}

abbrev Forms := Writing → Prop

def encoded (v : Value) : Forms :=
  fun w => w.text = v.render

def listForms (items : List Forms) : Forms :=
  fun w => ∃ ws, w = .array ws ∧ List.Forall₂ (fun forms w => forms w) items ws

structure FieldForms where
  name : String
  forms : Forms
  spare : Prop

def needed (name : String) (forms : Forms) : FieldForms :=
  ⟨name, forms, False⟩

def defaulting (name : String) (forms : Forms) (a absent : α) : FieldForms :=
  ⟨name, forms, a = absent⟩

/-- A field that need not have a value; without one it is left out or written as null. -/
def optionalForms (name : String) (forms : α → Forms) : Option α → FieldForms
  | none => ⟨name, encoded .null, True⟩
  | some a => ⟨name, forms a, False⟩

/-- A value that no reader asks for, of moderate depth and with numbers that can be read. -/
structure Extra (w : Writing) : Prop where
  depth_lt : w.depth < 100
  inRange : InRange w.parts

/-- The members of an object that holds some fields: in any order, among members of other names. -/
structure ObjectOf (fields : List FieldForms) (ms : List (StringText × Writing)) : Prop where
  forms : ∀ m ∈ ms, ∀ f ∈ fields, m.1.value = f.name → f.forms m.2
  extra : ∀ m ∈ ms, (∀ f ∈ fields, m.1.value ≠ f.name) → Extra m.2
  once : ∀ f ∈ fields, (ms.filter fun m => m.1.value == f.name).length ≤ 1
  complete : ∀ f ∈ fields, (∀ m ∈ ms, m.1.value ≠ f.name) → f.spare

/-- The elements of an array that holds some fields, each in its place. Fields are left out only at the end. -/
inductive ArrayOf : List FieldForms → List Writing → Prop where
  | short {fields : List FieldForms} (h : ∀ f ∈ fields, f.spare) : ArrayOf fields []
  | cons {f : FieldForms} {fields : List FieldForms} {w : Writing} {ws : List Writing} (h : f.forms w)
      (rest : ArrayOf fields ws) : ArrayOf (f :: fields) (w :: ws)

theorem ArrayOf.nil : ArrayOf [] [] :=
  .short fun _ h => absurd h List.not_mem_nil

def objectForms (fields : List FieldForms) : Forms :=
  fun w => ∃ ms, w = .object ms ∧ ObjectOf fields ms

def recordForms (fields : List FieldForms) : Forms :=
  fun w => objectForms fields w ∨ ∃ ws, w = .array ws ∧ ArrayOf fields ws

def Supplies (look : String → Option Tree) (f : FieldForms) : Prop :=
  look f.name = none ∧ f.spare ∨ ∃ w, f.forms w ∧ look f.name = some w.tree

def Field.Fits (f : Field) (g : FieldForms) : Prop :=
  f.name = g.name ∧ (g.spare → f.optional = true)

structure Record.Accepts (r : Record α) (fields : List FieldForms) (a : α) : Prop where
  fits : List.Forall₂ Field.Fits r.fields fields
  reads : ∀ look, (∀ f ∈ fields, Supplies look f) → r.Reads look a

theorem accepts_seq {f : Record (α → β)} {r : Record α} {fs gs : List FieldForms} {g : α → β} {a : α}
    (hf : f.Accepts fs g) (hr : r.Accepts gs a) : (f <*> r).Accepts (fs ++ gs) (g a) where
  fits := List.rel_append hf.fits hr.fits
  reads look h := by
    obtain ⟨hfs, hgs⟩ := List.forall_mem_append.mp h
    exact reads_seq (hf.reads look hfs) (hr.reads look hgs)

theorem accepts_map {r : Record α} {fields : List FieldForms} {a : α} (f : α → β) (hr : r.Accepts fields a) :
    (f <$> r).Accepts fields (f a) where
  fits := hr.fits
  reads look h := reads_map f (hr.reads look h)

theorem accepts_field {name : String} {d : Decoder α} {forms : Forms} {a : α}
    (hd : ∀ w, forms w → d w.tree = .ok a) : (field name d).Accepts [needed name forms] a where
  fits := .cons ⟨rfl, False.elim⟩ .nil
  reads look h := by
    rcases List.forall_mem_singleton.mp h with ⟨-, hspare⟩ | ⟨w, hw, hlook⟩
    · exact hspare.elim
    · exact reads_field hlook (hd w hw)

theorem accepts_fieldOr {name : String} {d : Decoder α} {forms : Forms} {spare : Prop} {a absent : α}
    (hspare : spare → a = absent) (hd : ∀ w, forms w → d w.tree = .ok a) :
    (fieldOr name absent d).Accepts [⟨name, forms, spare⟩] a where
  fits := .cons ⟨rfl, fun _ => rfl⟩ .nil
  reads look h := by
    rcases List.forall_mem_singleton.mp h with ⟨hlook, habsent⟩ | ⟨w, hw, hlook⟩
    · rw [hspare habsent]
      exact reads_fieldOr_absent hlook
    · exact reads_fieldOr hlook (hd w hw)

/-- A field without a value stays without one when it is written as null. -/
theorem accepts_optional (name : String) {d : Decoder α} {forms : α → Forms} {a : Option α}
    (hnull : ∀ b, d .null ≠ .ok b) (hd : ∀ b, a = some b → ∀ w, forms b w → d w.tree = .ok b) :
    (fieldOr name none (optional d)).Accepts [optionalForms name forms a] a := by
  cases a with
  | none =>
    refine accepts_fieldOr (fun _ => rfl) fun w hw => ?_
    have htree := tree_of_text (v := .null) trivial hw
    rw [htree]
    rfl
  | some b =>
    refine accepts_fieldOr False.elim fun w hw => ?_
    have hread := hd b rfl w hw
    refine optional_some (fun htree => hnull b ?_) hread
    rw [← htree, hread]

theorem names_of_fits {fields : List Field} {gs : List FieldForms} (h : List.Forall₂ Field.Fits fields gs) :
    fields.map Field.name = gs.map FieldForms.name := by
  induction h with
  | nil => rfl
  | cons hf _ ih => rw [List.map_cons, List.map_cons, ih, hf.1]

/-- Every field of a record is one of those whose forms are given. -/
theorem Record.Accepts.exists_name {r : Record α} {fields : List FieldForms} {a : α} (h : r.Accepts fields a)
    {f : Field} (hf : f ∈ r.fields) : ∃ g ∈ fields, f.name = g.name := by
  have hname : f.name ∈ fields.map FieldForms.name := names_of_fits h.fits ▸ List.mem_map_of_mem hf
  obtain ⟨g, hg, he⟩ := List.mem_map.mp hname
  exact ⟨g, hg, he.symm⟩

theorem member?_trees (ms : List (StringText × Writing)) (name : String) :
    member? (treesOfMembers ms) name = (ms.find? fun m => m.1.value == name).map fun m => m.2.tree := by
  rw [treesOfMembers_eq_map, member?, List.find?_map, Option.map_map]
  rfl

theorem filter_isNamed_trees (ms : List (StringText × Writing)) (name : String) :
    ((treesOfMembers ms).filter (isNamed name)).length = (ms.filter fun m => m.1.value == name).length := by
  rw [treesOfMembers_eq_map, List.filter_map, List.length_map]
  rfl

namespace ObjectOf

variable {fields : List FieldForms} {ms : List (StringText × Writing)}

theorem supplies (h : ObjectOf fields ms) : ∀ f ∈ fields, Supplies (member? (treesOfMembers ms)) f := by
  intro f hf
  rw [Supplies, member?_trees]
  cases hfind : ms.find? fun m => m.1.value == f.name with
  | none =>
    have habsent : ∀ m ∈ ms, m.1.value ≠ f.name := by simpa using hfind
    exact .inl ⟨rfl, h.complete f hf habsent⟩
  | some m =>
    have hname : m.1.value = f.name := by simpa using List.find?_some hfind
    exact .inr ⟨m.2, h.forms m (List.mem_of_find?_eq_some hfind) f hf hname, rfl⟩

theorem member?_of_mem (h : ObjectOf fields ms) {m : StringText × Writing} (hm : m ∈ ms) {f : FieldForms}
    (hf : f ∈ fields) (hname : m.1.value = f.name) : member? (treesOfMembers ms) f.name = some m.2.tree := by
  have hmem : ((.ok f.name, m.2.tree) : Name × Tree) ∈ treesOfMembers ms := by
    rw [treesOfMembers_eq_map, ← hname]
    exact List.mem_map_of_mem hm
  apply member?_eq_some_of_mem _ hmem
  rw [filter_isNamed_trees]
  exact h.once f hf

/-- A record with some of the fields is read from the object. -/
theorem reads (h : ObjectOf fields ms) {r : Record α} {gs : List FieldForms} {a : α} (hr : r.Accepts gs a)
    (hsub : gs ⊆ fields) : r.Reads (member? (treesOfMembers ms)) a :=
  hr.reads _ fun g hg => h.supplies g (hsub hg)

/-- The members pass where a record with some of the fields is read. -/
theorem checkMembers_eq (h : ObjectOf fields ms) {r : Record α} {gs : List FieldForms} {a : α}
    (hr : r.Accepts gs a) (hsub : gs ⊆ fields) : checkMembers r.fields [] (treesOfMembers ms) = .ok () := by
  rw [checkMembers_eq_ok_iff]
  constructor
  · intro m hm
    rw [treesOfMembers_eq_map] at hm
    obtain ⟨m, hmem, rfl⟩ := List.mem_map.mp hm
    cases hfind : r.fields.find? fun f => f.name == m.1.value with
    | none => exact (passes_of_other hfind).mpr (skipFault_tree m.2)
    | some f =>
      have hf : f ∈ r.fields := List.mem_of_find?_eq_some hfind
      have hname : f.name = m.1.value := by simpa using List.find?_some hfind
      obtain ⟨g, hg, hgname⟩ := hr.exists_name hf
      have hlook := h.member?_of_mem hmem (hsub hg) (hname.symm.trans hgname)
      rw [← hgname] at hlook
      exact (passes_of_field hfind).mpr ((h.reads hr hsub).checks f hf _ hlook)
  · intro f hf
    obtain ⟨g, hg, hname⟩ := hr.exists_name hf
    refine ⟨nofun, ?_⟩
    rw [filter_isNamed_trees, hname]
    exact h.once g (hsub hg)

end ObjectOf

namespace ArrayOf

variable {fields : List Field} {gs : List FieldForms} {ws : List Writing}

theorem supplies (h : ArrayOf gs ws) (hfits : List.Forall₂ Field.Fits fields gs)
    (hnames : (fields.map Field.name).Nodup) : ∀ g ∈ gs, Supplies (item? fields (treesOfItems ws)) g := by
  induction h generalizing fields with
  | short h => exact fun g hg => .inl ⟨item?_nil fields g.name, h g hg⟩
  | @cons g gs w ws hw rest ih =>
    obtain ⟨f, fields, hf, hrest, rfl⟩ := List.forall₂_cons_right_iff.mp hfits
    obtain ⟨hnew, hnames⟩ := List.nodup_cons.mp hnames
    have hhead := item?_self f fields w.tree (treesOfItems ws)
    rw [hf.1] at hhead
    refine List.forall_mem_cons.mpr ⟨.inr ⟨w, hw, hhead⟩, fun g' hg' => ?_⟩
    have hne : f.name ≠ g'.name := by
      intro he
      rw [names_of_fits hrest, he] at hnew
      exact hnew (List.mem_map_of_mem hg')
    rw [Supplies, treesOfItems, item?_cons_of_ne hne]
    exact ih hrest hnames g' hg'

theorem checkItems_of_spare (hfits : List.Forall₂ Field.Fits fields gs) (h : ∀ g ∈ gs, g.spare) (expected : String)
    (given : Nat) : checkItems expected .closed given fields [] = .ok () := by
  induction hfits generalizing given with
  | nil => rfl
  | cons hf hrest ih =>
    obtain ⟨hg, hgs⟩ := List.forall_mem_cons.mp h
    rw [checkItems, hf.2 hg]
    exact ih hgs (given + 1)

/-- The elements pass where each of them is accepted as the field in its place. -/
theorem checkItems_eq (h : ArrayOf gs ws) (hfits : List.Forall₂ Field.Fits fields gs)
    (hnames : (fields.map Field.name).Nodup)
    (hchecks : ∀ f ∈ fields, ∀ t, item? fields (treesOfItems ws) f.name = some t → f.check t = .ok ())
    (expected : String) (given : Nat) : checkItems expected .closed given fields (treesOfItems ws) = .ok () := by
  induction h generalizing fields given with
  | short h => exact checkItems_of_spare hfits h expected given
  | @cons g gs w ws hw rest ih =>
    obtain ⟨f, fields, hf, hrest, rfl⟩ := List.forall₂_cons_right_iff.mp hfits
    obtain ⟨hnew, hnames⟩ := List.nodup_cons.mp hnames
    obtain ⟨hcheck, hchecks⟩ := List.forall_mem_cons.mp hchecks
    have hhead : f.check w.tree = .ok () := hcheck w.tree (item?_self f fields w.tree _)
    rw [treesOfItems, checkItems, hhead]
    refine ih hrest hnames (fun f' hf' t ht => hchecks f' hf' t ?_) (given + 1)
    have hne : f.name ≠ f'.name := by
      intro he
      rw [he] at hnew
      exact hnew (List.mem_map_of_mem hf')
    rw [treesOfItems, item?_cons_of_ne hne, ht]

end ArrayOf

/-- Just as it is encoded, a value is read as ever. -/
theorem decode_encoded {d : Decoder α} {v : Value} {a : α} (hv : v.Legible) (hd : d v.toTree = .ok a) :
    ∀ w, encoded v w → d w.tree = .ok a := by
  intro w hw
  rw [tree_of_text hv hw, hd]

theorem decode_listForms {d : Decoder α} {forms : α → Forms} (as : List α)
    (hd : ∀ a ∈ as, ∀ w, forms a w → d w.tree = .ok a) : ∀ w, listForms (as.map forms) w → list d w.tree = .ok as := by
  rintro _ ⟨ws, rfl, hws⟩
  refine list_eq_ok_iff.mpr ⟨treesOfItems ws, rfl, ?_⟩
  rw [treesOfItems_eq_map, List.forall₂_map_left_iff]
  rw [List.forall₂_map_left_iff] at hws
  induction hws with
  | nil => exact .nil
  | cons hw _ ih =>
    obtain ⟨ha, has⟩ := List.forall_mem_cons.mp hd
    exact .cons (ha _ hw) (ih has)

theorem decode_objectForms {r : Record α} {fields : List FieldForms} {a : α} (name : String)
    (h : r.Accepts fields a) : ∀ w, objectForms fields w → r.decode name w.tree = .ok a := by
  rintro _ ⟨ms, rfl, hms⟩
  have hcheck := hms.checkMembers_eq h (List.Subset.refl fields)
  have hreads := hms.reads h (List.Subset.refl fields)
  simp only [Writing.tree, Record.decode, hcheck, Ending.readFault, noFault, hreads.build]
  rfl

/-- A record is read in each of its forms. -/
theorem decode_recordForms {r : Record α} {fields : List FieldForms} {a : α} (name : String)
    (h : r.Accepts fields a) (hnames : (fields.map FieldForms.name).Nodup) :
    ∀ w, recordForms fields w → r.decode name w.tree = .ok a := by
  rintro w (hobject | ⟨ws, rfl, hws⟩)
  · exact decode_objectForms name h w hobject
  · rw [← names_of_fits h.fits] at hnames
    have hreads := h.reads _ (hws.supplies h.fits hnames)
    simp only [Writing.tree, Record.decode, hws.checkItems_eq h.fits hnames hreads.checks, hreads.build]
    rfl

end PaddleLink.Json
