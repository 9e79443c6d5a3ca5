import PaddleLink.Json.Tree
import PaddleLink.Proofs.Json.Number

namespace PaddleLink.Json

variable {P : Number → Prop}

def Token.All (P : Number → Prop) : Token → Prop
  | .number (.ok n) => P n
  | _ => True

mutual

def Tree.All (P : Number → Prop) : Tree → Prop
  | .number (.ok n) => P n
  | .array items _ => AllItems P items
  | .object members _ => AllMembers P members
  | _ => True

def AllItems (P : Number → Prop) : List Tree → Prop
  | [] => True
  | t :: ts => t.All P ∧ AllItems P ts

def AllMembers (P : Number → Prop) : List (Name × Tree) → Prop
  | [] => True
  | (_, t) :: ms => t.All P ∧ AllMembers P ms

end

theorem allItems_iff (ts : List Tree) : AllItems P ts ↔ ∀ t ∈ ts, t.All P := by
  induction ts with
  | nil => simp [AllItems]
  | cons t ts ih => simp [AllItems, ih]

theorem allMembers_iff (ms : List (Name × Tree)) : AllMembers P ms ↔ ∀ m ∈ ms, m.2.All P := by
  induction ms with
  | nil => simp [AllMembers]
  | cons m ms ih => simp [AllMembers, ih]

theorem all_array {items : List Tree} {ending : Ending} :
    (Tree.array items ending).All P ↔ ∀ t ∈ items, t.All P := by
  rw [Tree.All, allItems_iff]

theorem all_object {members : List (Name × Tree)} {ending : Ending} :
    (Tree.object members ending).All P ↔ ∀ m ∈ members, m.2.All P := by
  rw [Tree.All, allMembers_iff]

theorem all_number {n : Except Fault Number} (h : Token.All P (.number n)) : Tree.All P (.number n) := by
  cases n with
  | ok n => exact h
  | error f => trivial

def Frame.All (P : Number → Prop) : Frame → Prop
  | .array items => ∀ t ∈ items, t.All P
  | .member members _ => ∀ m ∈ members, m.2.All P

theorem all_closeArray {v : Tree} {items : List Tree} (ending : Ending) (hv : v.All P)
    (hitems : ∀ t ∈ items, t.All P) : (Tree.array (v :: items).reverse ending).All P := by
  rw [all_array]
  intro t ht
  rcases List.mem_cons.mp (List.mem_reverse.mp ht) with rfl | ht
  · exact hv
  · exact hitems t ht

theorem all_closeObject {name : Name} {v : Tree} {members : List (Name × Tree)} (ending : Ending) (hv : v.All P)
    (hmembers : ∀ m ∈ members, m.2.All P) : (Tree.object ((name, v) :: members).reverse ending).All P := by
  rw [all_object]
  intro m hm
  rcases List.mem_cons.mp (List.mem_reverse.mp hm) with rfl | hm
  · exact hv
  · exact hmembers m hm

theorem all_giveUp {t : Tree} {frames : List Frame} (ht : t.All P) (hframes : ∀ f ∈ frames, f.All P) :
    (giveUp t frames).All P := by
  induction frames generalizing t with
  | nil => exact ht
  | cons f frames ih =>
    obtain ⟨hf, hrest⟩ := List.forall_mem_cons.mp hframes
    cases f with
    | array items => exact ih (all_closeArray _ ht hf) hrest
    | member members name => exact ih (all_closeObject _ ht hf) hrest

mutual

theorem all_readValue (ts : List Token) (frames : List Frame) (hts : ∀ t ∈ ts, t.All P)
    (hframes : ∀ f ∈ frames, f.All P) : (readValue ts frames).1.All P := by
  cases ts with
  | nil => exact all_giveUp trivial hframes
  | cons t ts =>
    obtain ⟨ht, hrest⟩ := List.forall_mem_cons.mp hts
    cases t with
    | null => exact all_readAfter .null ts frames trivial hrest hframes
    | bool b => exact all_readAfter (.bool b) ts frames trivial hrest hframes
    | number n => exact all_readAfter (.number n) ts frames (all_number ht) hrest hframes
    | string s => exact all_readAfter (.string s) ts frames trivial hrest hframes
    | openArray => exact all_readFirstItem ts frames hrest hframes
    | openObject => exact all_readFirstName ts frames hrest hframes
    | broken | closeArray | closeObject | comma | colon | stray => exact all_giveUp trivial hframes

theorem all_readFirstItem (ts : List Token) (frames : List Frame) (hts : ∀ t ∈ ts, t.All P)
    (hframes : ∀ f ∈ frames, f.All P) : (readFirstItem ts frames).1.All P := by
  have hempty : ∀ f ∈ Frame.array [] :: frames, f.All P :=
    List.forall_mem_cons.mpr ⟨fun t ht => (List.not_mem_nil ht).elim, hframes⟩
  cases ts with
  | nil => exact all_giveUp trivial hframes
  | cons t ts =>
    obtain ⟨ht, hrest⟩ := List.forall_mem_cons.mp hts
    cases t with
    | closeArray => exact all_readAfter (.array [] .closed) ts frames trivial hrest hframes
    | null => exact all_readAfter .null ts _ trivial hrest hempty
    | bool b => exact all_readAfter (.bool b) ts _ trivial hrest hempty
    | number n => exact all_readAfter (.number n) ts _ (all_number ht) hrest hempty
    | string s => exact all_readAfter (.string s) ts _ trivial hrest hempty
    | openArray => exact all_readFirstItem ts _ hrest hempty
    | openObject => exact all_readFirstName ts _ hrest hempty
    | broken | closeObject | comma | colon | stray => exact all_giveUp trivial hempty

theorem all_readFirstName (ts : List Token) (frames : List Frame) (hts : ∀ t ∈ ts, t.All P)
    (hframes : ∀ f ∈ frames, f.All P) : (readFirstName ts frames).1.All P := by
  cases ts with
  | nil => exact all_giveUp trivial hframes
  | cons t ts =>
    obtain ⟨-, hrest⟩ := List.forall_mem_cons.mp hts
    cases t with
    | closeObject => exact all_readAfter (.object [] .closed) ts frames trivial hrest hframes
    | string s => exact all_readColon [] s ts frames (fun m hm => (List.not_mem_nil hm).elim) hrest hframes
    | _ => exact all_giveUp trivial hframes

theorem all_readName (members : List (Name × Tree)) (ts : List Token) (frames : List Frame)
    (hmembers : ∀ m ∈ members, m.2.All P) (hts : ∀ t ∈ ts, t.All P) (hframes : ∀ f ∈ frames, f.All P) :
    (readName members ts frames).1.All P := by
  have hsofar (ending : Ending) : (Tree.object members.reverse ending).All P := by
    rw [all_object]
    exact fun m hm => hmembers m (List.mem_reverse.mp hm)
  cases ts with
  | nil => exact all_giveUp (hsofar _) hframes
  | cons t ts =>
    obtain ⟨-, hrest⟩ := List.forall_mem_cons.mp hts
    cases t with
    | string s => exact all_readColon members s ts frames hmembers hrest hframes
    | _ => exact all_giveUp (hsofar _) hframes

theorem all_readColon (members : List (Name × Tree)) (name : Name) (ts : List Token) (frames : List Frame)
    (hmembers : ∀ m ∈ members, m.2.All P) (hts : ∀ t ∈ ts, t.All P) (hframes : ∀ f ∈ frames, f.All P) :
    (readColon members name ts frames).1.All P := by
  have hinner : ∀ f ∈ Frame.member members name :: frames, f.All P :=
    List.forall_mem_cons.mpr ⟨hmembers, hframes⟩
  cases ts with
  | nil => exact all_giveUp trivial hinner
  | cons t ts =>
    obtain ⟨-, hrest⟩ := List.forall_mem_cons.mp hts
    cases t with
    | colon => exact all_readValue ts _ hrest hinner
    | _ => exact all_giveUp trivial hinner

theorem all_readAfter (v : Tree) (ts : List Token) (frames : List Frame) (hv : v.All P)
    (hts : ∀ t ∈ ts, t.All P) (hframes : ∀ f ∈ frames, f.All P) : (readAfter v ts frames).1.All P := by
  cases frames with
  | nil =>
    unfold readAfter
    exact hv
  | cons f frames =>
    obtain ⟨hf, houter⟩ := List.forall_mem_cons.mp hframes
    cases f with
    | array items =>
      have hmore : ∀ f ∈ Frame.array (v :: items) :: frames, f.All P :=
        List.forall_mem_cons.mpr ⟨List.forall_mem_cons.mpr ⟨hv, hf⟩, houter⟩
      cases ts with
      | nil => exact all_giveUp (all_closeArray _ hv hf) houter
      | cons t ts =>
        obtain ⟨-, hrest⟩ := List.forall_mem_cons.mp hts
        cases t with
        | comma =>
          unfold readAfter
          simp only
          split
          · exact all_giveUp trivial hmore
          · exact all_readValue ts _ hrest hmore
        | closeArray => exact all_readAfter _ ts frames (all_closeArray _ hv hf) hrest houter
        | _ => exact all_giveUp (all_closeArray _ hv hf) houter
    | member members name =>
      have hmore : ∀ m ∈ (name, v) :: members, m.2.All P := List.forall_mem_cons.mpr ⟨hv, hf⟩
      cases ts with
      | nil => exact all_giveUp (all_closeObject _ hv hf) houter
      | cons t ts =>
        obtain ⟨-, hrest⟩ := List.forall_mem_cons.mp hts
        cases t with
        | comma => exact all_readName _ ts frames hmore hrest houter
        | closeObject => exact all_readAfter _ ts frames (all_closeObject _ hv hf) hrest houter
        | _ => exact all_giveUp (all_closeObject _ hv hf) houter

end

theorem all_numberToken (cs : List Char) : (numberToken cs).1.All Number.InRange := by
  unfold numberToken
  split
  · rename_i n rest _
    cases hv : n.value with
    | ok m => exact inRange_value hv
    | error f => trivial
  · trivial

theorem all_stringToken (cs : List Char) : (stringToken cs).1.All P := by
  unfold stringToken
  split <;> trivial

theorem all_wordToken (word : List Char) {t : Token} (cs : List Char) (ht : t.All P) :
    (wordToken word t cs).1.All P := by
  unfold wordToken
  split
  · exact ht
  · trivial

theorem all_token (c : Char) (cs : List Char) : (token c cs).1.All Number.InRange := by
  unfold token
  split
  case h_7 => exact all_stringToken cs
  case h_8 | h_9 | h_10 => exact all_wordToken _ cs trivial
  case h_11 =>
    split
    · exact all_numberToken _
    · trivial
  all_goals trivial

theorem all_tokens (cs : List Char) : ∀ t ∈ tokens cs, t.All Number.InRange := by
  induction cs using tokens.induct with
  | case1 => simp [tokens]
  | case2 c cs hc ih =>
    rw [tokens, if_pos hc]
    exact ih
  | case3 c cs hc ih =>
    rw [tokens, if_neg hc]
    exact List.forall_mem_cons.mpr ⟨all_token c cs, ih⟩

/-- The numbers that are read from a text are in their range. -/
theorem all_root (cs : List Char) : (Document.ofChars cs).root.All Number.InRange :=
  all_readValue (tokens cs) [] (all_tokens cs) (fun _ h => (List.not_mem_nil h).elim)

end PaddleLink.Json
