import Mathlib.Data.List.Chain
import PaddleLink.Proofs.Json.NumberText
import PaddleLink.Proofs.Json.StringText

/-!
JSON texts in every form in which they may be written. White space may stand between any two parts of a text, before
the first and behind the last one; the text is read as the value that its parts make up.
-/

namespace PaddleLink.Json

/-- A part of a text that no white space divides. -/
inductive Part where
  | openArray
  | closeArray
  | openObject
  | closeObject
  | comma
  | colon
  | null
  | bool (b : Bool)
  | number (n : NumberText)
  | string (s : StringText)

def Part.text : Part → List Char
  | .openArray => ['[']
  | .closeArray => [']']
  | .openObject => ['\x7b']
  | .closeObject => ['\x7d']
  | .comma => [',']
  | .colon => [':']
  | .null => ['n', 'u', 'l', 'l']
  | .bool true => ['t', 'r', 'u', 'e']
  | .bool false => ['f', 'a', 'l', 's', 'e']
  | .number n => n.text
  | .string s => s.text

def Part.token : Part → Token
  | .openArray => .openArray
  | .closeArray => .closeArray
  | .openObject => .openObject
  | .closeObject => .closeObject
  | .comma => .comma
  | .colon => .colon
  | .null => .null
  | .bool b => .bool b
  | .number n => .number n.numeral.value
  | .string s => .string (.ok s.value)

def Part.isNumber : Part → Bool
  | .number _ => true
  | _ => false

/-- A text of some parts with white space between them. -/
inductive Spaced : List Part → List Char → Prop where
  | done {blanks : List Char} (h : ∀ c ∈ blanks, isBlank c = true) : Spaced [] blanks
  | part {blanks : List Char} (h : ∀ c ∈ blanks, isBlank c = true) (p : Part) {ps : List Part} {cs : List Char}
      (rest : Spaced ps cs) : Spaced (p :: ps) (blanks ++ (p.text ++ cs))

/-- The same white space may stand before every part. -/
theorem spaced_flatMap {blanks : List Char} (h : ∀ c ∈ blanks, isBlank c = true) (ps : List Part) :
    Spaced ps (ps.flatMap fun p => blanks ++ p.text) := by
  induction ps with
  | nil =>
    rw [List.flatMap_nil]
    exact .done nofun
  | cons p ps ih =>
    rw [List.flatMap_cons, List.append_assoc]
    exact .part h p ih

theorem tokens_cons {c : Char} (cs : List Char) (hc : isBlank c = false) :
    tokens (c :: cs) = (token c cs).1 :: tokens (token c cs).2 := by
  rw [tokens, if_neg (by simp [hc])]

theorem head_of_scanNumber {c : Char} {cs : List Char} {r : Numeral × List Char}
    (h : scanNumber (c :: cs) = .ok r) : c = '-' ∨ c.isDigit = true := by
  by_cases hminus : c = '-'
  · exact .inl hminus
  · cases hdigit : c.isDigit with
    | true => exact .inr rfl
    | false =>
      have hzero : c ≠ '0' := by
        rintro rfl
        cases hdigit
      have hlead : leadingDigits (c :: cs) = [] := by simp [leadingDigits, hdigit]
      have herror : scanNumber (c :: cs) = .error (noDigit (c :: cs)) := by
        simp [scanNumber, scanUnsigned, scanWhole, scanDigits, hminus, hzero, hlead, bind, Except.bind]
      rw [herror] at h
      cases h

theorem token_of_head {c : Char} (hc : c = '-' ∨ c.isDigit = true) (cs : List Char) :
    isBlank c = false ∧ token c cs = numberToken (c :: cs) := by
  constructor
  · cases hblank : isBlank c with
    | false => rfl
    | true =>
      simp only [isBlank, Bool.or_eq_true, decide_eq_true_eq] at hblank
      rcases hblank with ((rfl | rfl) | rfl) | rfl <;> exact absurd hc (by decide)
  · unfold token
    split
    case h_11 => rw [if_pos hc]
    all_goals exact absurd hc (by decide)

theorem tokens_of_numberToken {cs rest : List Char} {n : Except Fault Number}
    (h : numberToken cs = (.number n, rest)) : tokens cs = .number n :: tokens rest := by
  cases cs with
  | nil => cases h
  | cons c cs =>
    have hc : c = '-' ∨ c.isDigit = true := by
      unfold numberToken at h
      cases hs : scanNumber (c :: cs) with
      | ok r => exact head_of_scanNumber hs
      | error b =>
        rw [hs] at h
        cases h
    obtain ⟨hblank, htoken⟩ := token_of_head hc cs
    rw [tokens_cons cs hblank, htoken, h]

theorem tokens_part (p : Part) {rest : List Char} (h : p.isNumber = true → Stops rest) :
    tokens (p.text ++ rest) = p.token :: tokens rest := by
  cases p with
  | bool b => cases b <;> exact tokens_cons _ (by decide)
  | number n =>
    have htoken : numberToken (n.text ++ rest) = (.number n.numeral.value, rest) := by
      rw [numberToken, scanNumber_text n (h rfl)]
    exact tokens_of_numberToken htoken
  | string s =>
    have htext : s.text ++ rest = '"' :: (s.flatMap Glyph.text ++ '"' :: rest) := by simp [StringText.text]
    rw [Part.text, htext, tokens_cons _ (by decide), token, stringToken_text]
    rfl
  | _ => exact tokens_cons _ (by decide)

theorem tokens_blanks {blanks : List Char} (h : ∀ c ∈ blanks, isBlank c = true) (cs : List Char) :
    tokens (blanks ++ cs) = tokens cs := by
  induction blanks with
  | nil => rfl
  | cons c blanks ih =>
    obtain ⟨hc, hblanks⟩ := List.forall_mem_cons.mp h
    rw [List.cons_append, tokens, if_pos hc, ih hblanks]

theorem stops_blank {c : Char} (h : isBlank c = true) (cs : List Char) : Stops (c :: cs) := by
  simp only [isBlank, Bool.or_eq_true, decide_eq_true_eq] at h
  rcases h with ((rfl | rfl) | rfl) | rfl <;> exact stops_cons cs (by decide)

theorem stops_part {p : Part} (h : p.isNumber = false) (cs : List Char) : Stops (p.text ++ cs) := by
  cases p with
  | bool b => cases b <;> exact stops_cons _ (by decide)
  | number => cases h
  | _ => exact stops_cons _ (by decide)

theorem stops_spaced {ps : List Part} {cs : List Char} (hcs : Spaced ps cs)
    (hps : ∀ p ∈ ps.head?, p.isNumber = false) : Stops cs := by
  cases hcs with
  | done h =>
    cases cs with
    | nil => exact fun c hc => nomatch hc
    | cons c cs => exact stops_blank (h c List.mem_cons_self) cs
  | @part blanks h p ps cs rest =>
    cases blanks with
    | nil => exact stops_part (hps p rfl) cs
    | cons c blanks => exact stops_blank (h c List.mem_cons_self) _

def Apart (ps : List Part) : Prop :=
  ps.IsChain fun p q => p.isNumber = true → q.isNumber = false

/-- A text with white space in it is cut into its parts. -/
theorem tokens_spaced {ps : List Part} {cs : List Char} (hcs : Spaced ps cs) (hps : Apart ps) :
    tokens cs = ps.map Part.token := by
  induction hcs with
  | @done blanks h =>
    have hblanks := tokens_blanks h []
    rw [List.append_nil] at hblanks
    rw [hblanks, tokens]
    rfl
  | part h p rest ih =>
    obtain ⟨hhead, hrest⟩ := List.isChain_cons.mp hps
    rw [tokens_blanks h, tokens_part p, ih hrest, List.map_cons]
    -- a number ends where it should because the next part, or a blank before it, belongs to no number
    exact fun hp => stops_spaced rest fun q hq => hhead q hq hp

/-- A value as it is written, but for white space. -/
inductive Writing where
  | null
  | bool (b : Bool)
  | number (n : NumberText)
  | string (s : StringText)
  | array (items : List Writing)
  | object (members : List (StringText × Writing))

mutual

def Writing.parts : Writing → List Part
  | .null => [.null]
  | .bool b => [.bool b]
  | .number n => [.number n]
  | .string s => [.string s]
  | .array items => .openArray :: itemParts items
  | .object members => .openObject :: memberParts members

def itemParts : List Writing → List Part
  | [] => [.closeArray]
  | w :: ws => w.parts ++ moreItemParts ws

def moreItemParts : List Writing → List Part
  | [] => [.closeArray]
  | w :: ws => .comma :: (w.parts ++ moreItemParts ws)

def memberParts : List (StringText × Writing) → List Part
  | [] => [.closeObject]
  | (s, w) :: ms => .string s :: .colon :: (w.parts ++ moreMemberParts ms)

def moreMemberParts : List (StringText × Writing) → List Part
  | [] => [.closeObject]
  | (s, w) :: ms => .comma :: .string s :: .colon :: (w.parts ++ moreMemberParts ms)

end

def Writing.text (w : Writing) : List Char :=
  w.parts.flatMap Part.text

mutual

def Writing.tree : Writing → Tree
  | .null => .null
  | .bool b => .bool b
  | .number n => .number n.numeral.value
  | .string s => .string (.ok s.value)
  | .array items => .array (treesOfItems items) .closed
  | .object members => .object (treesOfMembers members) .closed

def treesOfItems : List Writing → List Tree
  | [] => []
  | w :: ws => w.tree :: treesOfItems ws

def treesOfMembers : List (StringText × Writing) → List (Name × Tree)
  | [] => []
  | (s, w) :: ms => (.ok s.value, w.tree) :: treesOfMembers ms

end

theorem treesOfItems_eq_map (ws : List Writing) : treesOfItems ws = ws.map Writing.tree := by
  induction ws with
  | nil => rfl
  | cons w ws ih => rw [treesOfItems, ih, List.map_cons]

theorem treesOfMembers_eq_map (ms : List (StringText × Writing)) :
    treesOfMembers ms = ms.map fun m => (.ok m.1.value, m.2.tree) := by
  induction ms with
  | nil => rfl
  | cons m ms ih => rw [treesOfMembers, ih, List.map_cons]

theorem apart_cons {p : Part} (h : p.isNumber = false) {ps : List Part} (hps : Apart ps) : Apart (p :: ps) :=
  List.isChain_cons.mpr ⟨fun _ _ hp => absurd hp (by simp [h]), hps⟩

theorem head_moreItemParts (ws : List Writing) (ps : List Part) :
    ∀ q ∈ (moreItemParts ws ++ ps).head?, q.isNumber = false := by
  cases ws <;> exact fun q hq => by cases hq; rfl

theorem head_moreMemberParts (ms : List (StringText × Writing)) (ps : List Part) :
    ∀ q ∈ (moreMemberParts ms ++ ps).head?, q.isNumber = false := by
  cases ms <;> exact fun q hq => by cases hq; rfl

mutual

theorem apart_parts (w : Writing) {ps : List Part} (hps : Apart ps) (hhead : ∀ q ∈ ps.head?, q.isNumber = false) :
    Apart (w.parts ++ ps) := by
  cases w with
  | null | bool | string => exact apart_cons rfl hps
  | number n => exact List.isChain_cons.mpr ⟨fun q hq _ => hhead q hq, hps⟩
  | array items => exact apart_cons rfl (apart_itemParts items hps)
  | object members => exact apart_cons rfl (apart_memberParts members hps)

theorem apart_itemParts (ws : List Writing) {ps : List Part} (hps : Apart ps) : Apart (itemParts ws ++ ps) := by
  cases ws with
  | nil => exact apart_cons rfl hps
  | cons w ws =>
    rw [itemParts, List.append_assoc]
    exact apart_parts w (apart_moreItemParts ws hps) (head_moreItemParts ws ps)

theorem apart_moreItemParts (ws : List Writing) {ps : List Part} (hps : Apart ps) :
    Apart (moreItemParts ws ++ ps) := by
  cases ws with
  | nil => exact apart_cons rfl hps
  | cons w ws =>
    rw [moreItemParts, List.cons_append, List.append_assoc]
    exact apart_cons rfl (apart_parts w (apart_moreItemParts ws hps) (head_moreItemParts ws ps))

theorem apart_memberParts (ms : List (StringText × Writing)) {ps : List Part} (hps : Apart ps) :
    Apart (memberParts ms ++ ps) := by
  cases ms with
  | nil => exact apart_cons rfl hps
  | cons m ms =>
    obtain ⟨s, w⟩ := m
    rw [memberParts, List.cons_append, List.cons_append, List.append_assoc]
    exact apart_cons rfl (apart_cons rfl
      (apart_parts w (apart_moreMemberParts ms hps) (head_moreMemberParts ms ps)))

theorem apart_moreMemberParts (ms : List (StringText × Writing)) {ps : List Part} (hps : Apart ps) :
    Apart (moreMemberParts ms ++ ps) := by
  cases ms with
  | nil => exact apart_cons rfl hps
  | cons m ms =>
    obtain ⟨s, w⟩ := m
    rw [moreMemberParts, List.cons_append, List.cons_append, List.cons_append, List.append_assoc]
    exact apart_cons rfl (apart_cons rfl (apart_cons rfl
      (apart_parts w (apart_moreMemberParts ms hps) (head_moreMemberParts ms ps))))

end

def Token.opens : Token → Bool
  | .null | .bool _ | .number _ | .string _ | .openArray | .openObject => true
  | _ => false

theorem readFirstItem_of_opens {t : Token} (ht : t.opens = true) (ts : List Token) (frames : List Frame) :
    readFirstItem (t :: ts) frames = readValue (t :: ts) (.array [] :: frames) := by
  cases t with
  | null | bool | number | string | openArray | openObject => rfl
  | _ => cases ht

theorem readAfter_comma_of_opens {t : Token} (ht : t.opens = true) (v : Tree) (ts : List Token)
    (items : List Tree) (frames : List Frame) :
    readAfter v (.comma :: t :: ts) (.array items :: frames) =
      readValue (t :: ts) (.array (v :: items) :: frames) := by
  cases t with
  | null | bool | number | string | openArray | openObject => rfl
  | _ => cases ht

theorem exists_opens (w : Writing) : ∃ t ts, w.parts.map Part.token = t :: ts ∧ t.opens = true := by
  cases w <;> exact ⟨_, _, rfl, rfl⟩

mutual

theorem readValue_parts (w : Writing) (ts : List Token) (frames : List Frame) :
    readValue (w.parts.map Part.token ++ ts) frames = readAfter w.tree ts frames := by
  cases w with
  | null | bool | number | string => rfl
  | array items => exact readFirstItem_parts items ts frames
  | object members => exact readFirstName_parts members ts frames

theorem readFirstItem_parts (ws : List Writing) (ts : List Token) (frames : List Frame) :
    readFirstItem ((itemParts ws).map Part.token ++ ts) frames =
      readAfter (.array (treesOfItems ws) .closed) ts frames := by
  cases ws with
  | nil => rfl
  | cons w ws =>
    obtain ⟨t, ts', ht, hopens⟩ := exists_opens w
    rw [itemParts, List.map_append, List.append_assoc, ht, List.cons_append, readFirstItem_of_opens hopens,
      ← List.cons_append, ← ht, readValue_parts w, readAfter_moreItemParts ws]
    rfl

theorem readAfter_moreItemParts (ws : List Writing) (t : Tree) (items : List Tree) (ts : List Token)
    (frames : List Frame) :
    readAfter t ((moreItemParts ws).map Part.token ++ ts) (.array items :: frames) =
      readAfter (.array ((t :: items).reverse ++ treesOfItems ws) .closed) ts frames := by
  cases ws with
  | nil =>
    rw [treesOfItems, List.append_nil]
    rfl
  | cons w ws =>
    obtain ⟨t', ts', ht, hopens⟩ := exists_opens w
    rw [moreItemParts, List.map_cons, List.map_append, ht, Part.token, List.cons_append, List.cons_append,
      List.cons_append, readAfter_comma_of_opens hopens, ← List.cons_append, ← List.cons_append, ← ht,
      List.append_assoc, readValue_parts w, readAfter_moreItemParts ws]
    simp [treesOfItems]

theorem readFirstName_parts (ms : List (StringText × Writing)) (ts : List Token) (frames : List Frame) :
    readFirstName ((memberParts ms).map Part.token ++ ts) frames =
      readAfter (.object (treesOfMembers ms) .closed) ts frames := by
  cases ms with
  | nil => rfl
  | cons m ms =>
    obtain ⟨s, w⟩ := m
    simp only [memberParts, List.map_cons, List.map_append, Part.token, List.cons_append, List.append_assoc]
    rw [readFirstName, readColon, readValue_parts w, readAfter_moreMemberParts ms]
    rfl

theorem readAfter_moreMemberParts (ms : List (StringText × Writing)) (t : Tree) (name : Name)
    (members : List (Name × Tree)) (ts : List Token) (frames : List Frame) :
    readAfter t ((moreMemberParts ms).map Part.token ++ ts) (.member members name :: frames) =
      readAfter (.object (((name, t) :: members).reverse ++ treesOfMembers ms) .closed) ts frames := by
  cases ms with
  | nil =>
    rw [treesOfMembers, List.append_nil]
    rfl
  | cons m ms =>
    obtain ⟨s, w⟩ := m
    simp only [moreMemberParts, List.map_cons, List.map_append, Part.token, List.cons_append, List.append_assoc]
    rw [readAfter, readName, readColon, readValue_parts w, readAfter_moreMemberParts ms]
    simp [treesOfMembers]

end

/-- Whatever white space there is, a text is read as the value that is written. -/
theorem ofChars_spaced {w : Writing} {cs : List Char} (h : Spaced w.parts cs) :
    Document.ofChars cs = ⟨w.tree, false⟩ := by
  have hapart : Apart w.parts := by
    have happend := apart_parts w List.IsChain.nil nofun
    rwa [List.append_nil] at happend
  have hread := readValue_parts w [] []
  rw [List.append_nil] at hread
  rw [Document.ofChars, tokens_spaced h hapart, hread, readAfter]
  rfl

theorem spaced_text (w : Writing) : Spaced w.parts w.text := by
  have hblanks : ∀ c ∈ ([] : List Char), isBlank c = true := nofun
  exact spaced_flatMap hblanks w.parts

mutual

theorem skipFault_tree (w : Writing) : w.tree.skipFault = none := by
  cases w with
  | null | bool | number | string => rfl
  | array items => exact skipItems_trees items
  | object members => exact skipMembers_trees members

theorem skipItems_trees (ws : List Writing) : skipItems (treesOfItems ws) .closed = none := by
  cases ws with
  | nil => rfl
  | cons w ws =>
    rw [treesOfItems, skipItems, skipFault_tree w]
    exact skipItems_trees ws

theorem skipMembers_trees (ms : List (StringText × Writing)) : skipMembers (treesOfMembers ms) .closed = none := by
  cases ms with
  | nil => rfl
  | cons m ms =>
    obtain ⟨s, w⟩ := m
    rw [treesOfMembers, skipMembers, skipFault_tree w]
    exact skipMembers_trees ms

end

mutual

def Writing.depth : Writing → Nat
  | .array items => itemsDepth items + 1
  | .object members => membersDepth members + 1
  | _ => 0

def itemsDepth : List Writing → Nat
  | [] => 0
  | w :: ws => max w.depth (itemsDepth ws)

def membersDepth : List (StringText × Writing) → Nat
  | [] => 0
  | (_, w) :: ms => max w.depth (membersDepth ms)

end

def InRange (ps : List Part) : Prop :=
  ∀ n, Part.number n ∈ ps → ∃ x, n.numeral.value = .ok x

theorem InRange.mono {ps qs : List Part} (h : InRange ps) (hsub : ∀ p ∈ qs, p ∈ ps) : InRange qs :=
  fun n hn => h n (hsub _ hn)

mutual

/-- A value that is not nested too deep can be kept for later. -/
theorem keepFault_tree {levels : Nat} (w : Writing) (hrange : InRange w.parts) (hdepth : w.depth ≤ levels) :
    w.tree.keepFault levels = none := by
  cases w with
  | null | bool | string => rfl
  | number n =>
    obtain ⟨x, hx⟩ := hrange n List.mem_cons_self
    rw [Writing.tree, Tree.keepFault, hx]
    rfl
  | array items =>
    have hrest : InRange (itemParts items) := hrange.mono fun p hp => List.mem_cons_of_mem _ hp
    simp only [Writing.depth] at hdepth
    rw [Writing.tree, Tree.keepFault, if_neg (by omega)]
    exact keepItems_trees items hrest (by omega)
  | object members =>
    have hrest : InRange (memberParts members) := hrange.mono fun p hp => List.mem_cons_of_mem _ hp
    simp only [Writing.depth] at hdepth
    rw [Writing.tree, Tree.keepFault, if_neg (by omega)]
    exact keepMembers_trees members hrest (by omega)

theorem keepItems_trees {levels : Nat} (ws : List Writing) (hrange : InRange (itemParts ws))
    (hdepth : itemsDepth ws ≤ levels) : keepItems levels (treesOfItems ws) .closed = none := by
  cases ws with
  | nil => rfl
  | cons w ws =>
    simp only [itemsDepth, Nat.max_le] at hdepth
    have hw : InRange w.parts := hrange.mono fun p hp => List.mem_append_left _ hp
    have hws : InRange (itemParts ws) := by
      refine hrange.mono fun p hp => List.mem_append_right _ ?_
      cases ws with
      | nil => exact hp
      | cons w' ws => exact List.mem_cons_of_mem _ hp
    rw [treesOfItems, keepItems, keepFault_tree w hw hdepth.1]
    exact keepItems_trees ws hws hdepth.2

theorem keepMembers_trees {levels : Nat} (ms : List (StringText × Writing)) (hrange : InRange (memberParts ms))
    (hdepth : membersDepth ms ≤ levels) : keepMembers levels (treesOfMembers ms) .closed = none := by
  cases ms with
  | nil => rfl
  | cons m ms =>
    obtain ⟨s, w⟩ := m
    simp only [membersDepth, Nat.max_le] at hdepth
    have hw : InRange w.parts :=
      hrange.mono fun p hp => List.mem_cons_of_mem _ (List.mem_cons_of_mem _ (List.mem_append_left _ hp))
    have hms : InRange (memberParts ms) := by
      refine hrange.mono fun p hp => List.mem_cons_of_mem _ (List.mem_cons_of_mem _ (List.mem_append_right _ ?_))
      cases ms with
      | nil => exact hp
      | cons m' ms => exact List.mem_cons_of_mem _ hp
    rw [treesOfMembers, keepMembers, keepFault_tree w hw hdepth.1]
    exact keepMembers_trees ms hms hdepth.2

end

end PaddleLink.Json
