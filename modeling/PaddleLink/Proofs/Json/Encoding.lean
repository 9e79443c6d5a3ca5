import Mathlib.Data.List.Nodup
import PaddleLink.Proofs.Json.Forms

namespace PaddleLink.Json

def Holds (forms : Forms) (v : Value) : Prop :=
  ∃ w, forms w ∧ w.text = v.render

theorem encoded_string {gs : StringText} {s : String} (h : gs.text = renderString s) :
    encoded (.string s) (.string gs) := by
  simp [encoded, Writing.text, Writing.parts, Part.text, Value.render, h]

theorem encoded_number {n : NumberText} {v : Value} (h : n.text = v.render) : encoded v (.number n) := by
  simp [encoded, Writing.text, Writing.parts, Part.text, h]

theorem holds_of_legible {v : Value} (hv : v.Legible) : Holds (encoded v) v := by
  obtain ⟨w, htext, -⟩ := exists_writing v hv
  exact ⟨w, htext, htext⟩

theorem holds_list {items : List Forms} {vs : List Value} (h : List.Forall₂ Holds items vs) :
    Holds (listForms items) (.array vs) := by
  have hws : ∃ ws, List.Forall₂ (fun forms w => forms w) items ws ∧
      List.Forall₂ (fun w v => w.text = v.render) ws vs := by
    induction h with
    | nil => exact ⟨[], .nil, .nil⟩
    | cons hv _ ih =>
      obtain ⟨w, hforms, htext⟩ := hv
      obtain ⟨ws, hrest, htexts⟩ := ih
      exact ⟨w :: ws, .cons hforms hrest, .cons htext htexts⟩
  obtain ⟨ws, hforms, htexts⟩ := hws
  exact ⟨.array ws, ⟨ws, rfl, hforms⟩, text_array htexts⟩

theorem holds_map {α : Type} {forms : α → Forms} {f : α → Value} (as : List α)
    (h : ∀ a ∈ as, Holds (forms a) (f a)) : Holds (listForms (as.map forms)) (.array (as.map f)) := by
  refine holds_list (List.forall₂_map_left_iff.mpr (List.forall₂_map_right_iff.mpr ?_))
  exact List.forall₂_same.mpr h

/-- Distinct members that are all fields make up an object with these fields, if only spare fields are missing. -/
theorem ObjectOf.of_distinct {fields : List FieldForms} {ms : List (StringText × Writing)}
    (hfields : (fields.map FieldForms.name).Nodup) (hdistinct : (ms.map fun m => m.1.value).Nodup)
    (hms : ∀ m ∈ ms, ∃ f ∈ fields, m.1.value = f.name ∧ f.forms m.2)
    (hcomplete : ∀ f ∈ fields, f.spare ∨ ∃ m ∈ ms, m.1.value = f.name) : ObjectOf fields ms where
  forms m hm f hf hname := by
    obtain ⟨g, hg, hgname, hforms⟩ := hms m hm
    obtain rfl : g = f := List.inj_on_of_nodup_map hfields hg hf (hgname.symm.trans hname)
    exact hforms
  extra m hm hother := by
    obtain ⟨f, hf, hname, -⟩ := hms m hm
    exact absurd hname (hother f hf)
  once f _ := by
    have hcount := List.nodup_iff_count_le_one.mp hdistinct f.name
    rwa [List.count, List.countP_map, List.countP_eq_length_filter] at hcount
  complete f hf habsent := by
    rcases hcomplete f hf with hspare | ⟨m, hm, hname⟩
    · exact hspare
    · exact absurd hname (habsent m hm)

/-- The fields of a record as they are encoded, with some left out that can be done without. -/
inductive Lists : List FieldForms → List (String × Value) → Prop where
  | nil : Lists [] []
  | keep {f : FieldForms} {fields : List FieldForms} {v : Value} {vs : List (String × Value)} (h : Holds f.forms v)
      (rest : Lists fields vs) : Lists (f :: fields) ((f.name, v) :: vs)
  | leave {f : FieldForms} {fields : List FieldForms} {vs : List (String × Value)} (h : f.spare)
      (rest : Lists fields vs) : Lists (f :: fields) vs

theorem Lists.keepEncoded (name : String) {v : Value} {fields : List FieldForms} {vs : List (String × Value)}
    (hv : v.Legible) (rest : Lists fields vs) : Lists (needed name (encoded v) :: fields) ((name, v) :: vs) :=
  .keep (f := needed name (encoded v)) (holds_of_legible hv) rest

theorem Lists.exists_members {fields : List FieldForms} {vs : List (String × Value)} (h : Lists fields vs) :
    ∃ ms, List.Forall₂ SameText ms vs ∧ (ms.map fun m => m.1.value).Sublist (fields.map FieldForms.name) ∧
      (∀ m ∈ ms, ∃ f ∈ fields, m.1.value = f.name ∧ f.forms m.2) ∧
      ∀ f ∈ fields, f.spare ∨ ∃ m ∈ ms, m.1.value = f.name := by
  induction h with
  | nil => exact ⟨[], .nil, .slnil, nofun, nofun⟩
  | @keep f fields v vs h rest ih =>
    obtain ⟨w, hforms, htext⟩ := h
    obtain ⟨gs, hname, hvalue⟩ := exists_stringText f.name
    obtain ⟨ms, htexts, hsub, hms, hcomplete⟩ := ih
    refine ⟨(gs, w) :: ms, .cons ⟨hname, htext⟩ htexts, ?_, ?_, ?_⟩
    · rw [List.map_cons, List.map_cons, hvalue]
      exact hsub.cons_cons f.name
    · refine List.forall_mem_cons.mpr ⟨⟨f, List.mem_cons_self, hvalue, hforms⟩, fun m hm => ?_⟩
      obtain ⟨g, hg, hm⟩ := hms m hm
      exact ⟨g, List.mem_cons_of_mem f hg, hm⟩
    · refine List.forall_mem_cons.mpr ⟨.inr ⟨(gs, w), List.mem_cons_self, hvalue⟩, fun g hg => ?_⟩
      exact (hcomplete g hg).imp_right fun ⟨m, hm, hname⟩ => ⟨m, List.mem_cons_of_mem _ hm, hname⟩
  | @leave f fields vs h rest ih =>
    obtain ⟨ms, htexts, hsub, hms, hcomplete⟩ := ih
    refine ⟨ms, htexts, hsub.cons f.name, fun m hm => ?_, List.forall_mem_cons.mpr ⟨.inl h, hcomplete⟩⟩
    obtain ⟨g, hg, hm⟩ := hms m hm
    exact ⟨g, List.mem_cons_of_mem f hg, hm⟩

theorem holds_object {fields : List FieldForms} {vs : List (String × Value)} (h : Lists fields vs)
    (hnames : (fields.map FieldForms.name).Nodup) : Holds (objectForms fields) (.object vs) := by
  obtain ⟨ms, htexts, hsub, hms, hcomplete⟩ := h.exists_members
  exact ⟨.object ms, ⟨ms, rfl, .of_distinct hnames (hsub.nodup hnames) hms hcomplete⟩, text_object htexts⟩

theorem holds_record {fields : List FieldForms} {vs : List (String × Value)} (h : Lists fields vs)
    (hnames : (fields.map FieldForms.name).Nodup) : Holds (recordForms fields) (.object vs) := by
  obtain ⟨w, hforms, htext⟩ := holds_object h hnames
  exact ⟨w, .inl hforms, htext⟩

end PaddleLink.Json
