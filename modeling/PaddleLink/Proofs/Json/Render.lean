import PaddleLink.Json.Decoder
import PaddleLink.Proofs.Json.Digits
import PaddleLink.Proofs.Json.Writing

namespace PaddleLink.Json

mutual

/-- A value all of whose numbers are read as they are written. -/
def Value.Legible : Value → Prop
  | .integer i => -2 ^ 63 ≤ i ∧ i < 2 ^ 64
  | .float x => ReadsBack x
  | .array items => LegibleItems items
  | .object members => LegibleMembers members
  | _ => True

def LegibleItems : List Value → Prop
  | [] => True
  | v :: vs => v.Legible ∧ LegibleItems vs

def LegibleMembers : List (String × Value) → Prop
  | [] => True
  | (_, v) :: ms => v.Legible ∧ LegibleMembers ms

end

theorem legible_array {items : List Value} : (Value.array items).Legible ↔ ∀ v ∈ items, v.Legible := by
  rw [Value.Legible]
  induction items with
  | nil => simp [LegibleItems]
  | cons v items ih => simp [LegibleItems, ih]

theorem legible_object {members : List (String × Value)} :
    (Value.object members).Legible ↔ ∀ m ∈ members, m.2.Legible := by
  rw [Value.Legible]
  induction members with
  | nil => simp [LegibleMembers]
  | cons m members ih => simp [LegibleMembers, ih]

theorem legible_natCast {n : Nat} (hn : n < 2 ^ 64) : (Value.integer n).Legible :=
  ⟨by omega, by omega⟩

theorem legible_ofFloat {x : Float} (hx : ReadsBack x) : (Value.ofFloat x).Legible := by
  unfold Value.ofFloat
  split
  · exact hx
  · trivial

theorem text_moreItems {ws : List Writing} {vs : List Value}
    (h : List.Forall₂ (fun w v => w.text = v.render) ws vs) :
    (moreItemParts ws).flatMap Part.text = renderMoreItems vs := by
  induction h with
  | nil => rfl
  | cons hw _ ih =>
    rw [moreItemParts, List.flatMap_cons, List.flatMap_append, ih, ← Writing.text, hw, renderMoreItems]
    rfl

theorem text_array {ws : List Writing} {vs : List Value} (h : List.Forall₂ (fun w v => w.text = v.render) ws vs) :
    (Writing.array ws).text = (Value.array vs).render := by
  cases h with
  | nil => rfl
  | cons hw hrest =>
    rw [Writing.text, Writing.parts, List.flatMap_cons, itemParts, List.flatMap_append, text_moreItems hrest,
      ← Writing.text, hw, Value.render, renderItems]
    rfl

def SameText (m : StringText × Writing) (v : String × Value) : Prop :=
  m.1.text = renderString v.1 ∧ m.2.text = v.2.render

theorem text_moreMembers {ms : List (StringText × Writing)} {vs : List (String × Value)}
    (h : List.Forall₂ SameText ms vs) : (moreMemberParts ms).flatMap Part.text = renderMoreMembers vs := by
  induction h with
  | nil => rfl
  | cons hm _ ih =>
    simp only [moreMemberParts, List.flatMap_cons, List.flatMap_append, ih, Part.text, hm.1, renderMoreMembers]
    rw [← Writing.text, hm.2]
    simp

theorem text_object {ms : List (StringText × Writing)} {vs : List (String × Value)}
    (h : List.Forall₂ SameText ms vs) : (Writing.object ms).text = (Value.object vs).render := by
  cases h with
  | nil => rfl
  | cons hm hrest =>
    simp only [Writing.text, Writing.parts, List.flatMap_cons, memberParts, List.flatMap_append,
      text_moreMembers hrest, Part.text, hm.1, Value.render, renderMembers]
    rw [← Writing.text, hm.2]
    simp

/-- A text that is read as one number is written as one. -/
theorem exists_number {cs : List Char} {n : Except Fault Number} (h : numberToken cs = (.number n, [])) :
    ∃ w : Writing, w.text = cs ∧ w.tree = .number n := by
  unfold numberToken at h
  cases hscan : scanNumber cs with
  | error b =>
    rw [hscan] at h
    cases h
  | ok r =>
    obtain ⟨numeral, left⟩ := r
    rw [hscan] at h
    obtain rfl : left = [] := (Prod.mk.inj h).2
    obtain ⟨t, rfl⟩ := exists_numberText_eq hscan
    have hstops : Stops [] := nofun
    have htext := scanNumber_text t hstops
    rw [List.append_nil, hscan] at htext
    cases htext
    refine ⟨.number t, by simp [Writing.text, Writing.parts, Part.text], ?_⟩
    exact congrArg Tree.number (Token.number.inj (Prod.mk.inj h).1)

mutual

/-- The text of a value is one of those in which it may be written. -/
theorem exists_writing (v : Value) (hv : v.Legible) : ∃ w : Writing, w.text = v.render ∧ w.tree = v.toTree := by
  cases v with
  | null => exact ⟨.null, rfl, rfl⟩
  | bool b => exact ⟨.bool b, by cases b <;> rfl, rfl⟩
  | integer i => exact exists_number (numberToken_ofInt hv.1 hv.2)
  | float x => exact exists_number hv
  | string s =>
    obtain ⟨gs, htext, hvalue⟩ := exists_stringText s
    refine ⟨.string gs, ?_, by rw [Writing.tree, hvalue, Value.toTree]⟩
    simp [Writing.text, Writing.parts, Part.text, Value.render, htext]
  | array items =>
    obtain ⟨ws, htexts, htrees⟩ := exists_items items hv
    exact ⟨.array ws, text_array htexts, by rw [Writing.tree, htrees, Value.toTree]⟩
  | object members =>
    obtain ⟨ms, htexts, htrees⟩ := exists_members members hv
    exact ⟨.object ms, text_object htexts, by rw [Writing.tree, htrees, Value.toTree]⟩

theorem exists_items (vs : List Value) (hvs : LegibleItems vs) :
    ∃ ws, List.Forall₂ (fun w v => w.text = v.render) ws vs ∧ treesOfItems ws = itemTrees vs := by
  cases vs with
  | nil => exact ⟨[], .nil, rfl⟩
  | cons v vs =>
    obtain ⟨w, htext, htree⟩ := exists_writing v hvs.1
    obtain ⟨ws, htexts, htrees⟩ := exists_items vs hvs.2
    exact ⟨w :: ws, .cons htext htexts, by rw [treesOfItems, htree, htrees, itemTrees]⟩

theorem exists_members (vs : List (String × Value)) (hvs : LegibleMembers vs) :
    ∃ ms, List.Forall₂ SameText ms vs ∧ treesOfMembers ms = memberTrees vs := by
  cases vs with
  | nil => exact ⟨[], .nil, rfl⟩
  | cons v vs =>
    obtain ⟨name, v⟩ := v
    obtain ⟨gs, hname, hvalue⟩ := exists_stringText name
    obtain ⟨w, htext, htree⟩ := exists_writing v hvs.1
    obtain ⟨ms, htexts, htrees⟩ := exists_members vs hvs.2
    exact ⟨(gs, w) :: ms, .cons ⟨hname, htext⟩ htexts, by rw [treesOfMembers, hvalue, htree, htrees, memberTrees]⟩

end

/-- The text of a value is read as the tree of the value. -/
theorem ofChars_render {v : Value} (hv : v.Legible) : Document.ofChars v.render = ⟨v.toTree, false⟩ := by
  obtain ⟨w, htext, htree⟩ := exists_writing v hv
  rw [← htext, ofChars_spaced (spaced_text w), htree]

/-- Two values with the same text mean the same. -/
theorem tree_of_text {w : Writing} {v : Value} (hv : v.Legible) (h : w.text = v.render) : w.tree = v.toTree := by
  have hread := ofChars_spaced (spaced_text w)
  rw [h, ofChars_render hv] at hread
  exact (Document.mk.inj hread).1.symm

/-- A decoder reads a value from its text if it reads it from its tree. -/
theorem run_toText {α : Type} {d : Decoder α} {v : Value} {a : α} (hv : v.Legible) (h : d v.toTree = .ok a) :
    d.run v.toText = .ok a := by
  unfold Decoder.run Document.ofString Value.toText
  rw [String.toList_ofList, ofChars_render hv]
  simp [h, bind, Except.bind, pure, Except.pure]

end PaddleLink.Json
