import PaddleLink.Json.Value

namespace PaddleLink.Json

structure UnitText where
  first : Char
  second : Char
  third : Char
  fourth : Char
  value : Nat
  value_eq : unitValue? first second third fourth = some value

def UnitText.text (u : UnitText) : List Char :=
  ['\\', 'u', u.first, u.second, u.third, u.fourth]

/-- A character of a string as it may be written: plain, behind a backslash, or by the units of its code. The halves
of a pair stand together. -/
inductive Glyph where
  | plain (c : Char) (quotable : ¬ c.toNat < 0x20 ∧ c ≠ '"' ∧ c ≠ '\\')
  | short (mark c : Char) (escape : escaped? mark = some c)
  | code (u : UnitText) (whole : isHighHalf u.value = false ∧ isLowHalf u.value = false)
  | pair (high low : UnitText) (halves : isHighHalf high.value = true ∧ isLowHalf low.value = true)

def Glyph.text : Glyph → List Char
  | .plain c _ => [c]
  | .short mark _ _ => ['\\', mark]
  | .code u _ => u.text
  | .pair high low _ => high.text ++ low.text

def Glyph.char : Glyph → Char
  | .plain c _ => c
  | .short _ c _ => c
  | .code u _ => Char.ofNat u.value
  | .pair high low _ => Char.ofNat (0x10000 + (high.value - 0xD800) * 0x400 + (low.value - 0xDC00))

/-- What a reader makes of a character before halves are put together. -/
def Glyph.pieces : Glyph → List Piece
  | .plain c _ => [.char c]
  | .short _ c _ => [.char c]
  | .code u _ => [.unit u.value]
  | .pair high low _ => [.unit high.value, .unit low.value]

abbrev StringText := List Glyph

def StringText.value (gs : StringText) : String :=
  String.ofList (gs.map Glyph.char)

def StringText.text (gs : StringText) : List Char :=
  '"' :: (gs.flatMap Glyph.text ++ ['"'])

theorem scanPieces_plain {c : Char} (cs : List Char) (hquote : c ≠ '"') (hslash : c ≠ '\\')
    (hcontrol : ¬ c.toNat < 0x20) : scanPieces (c :: cs) = withPiece (.char c) (scanPieces cs) := by
  rw [scanPieces]
  · rw [if_neg hcontrol]
  all_goals simp [hquote, hslash]

theorem scanPieces_escaped {c e : Char} (cs : List Char) (hu : c ≠ 'u') (he : escaped? c = some e) :
    scanPieces ('\\' :: c :: cs) = withPiece (.char e) (scanPieces cs) := by
  rw [scanPieces]
  · rw [he]
  all_goals simp [hu]

theorem scanPieces_unit (u : UnitText) (rest : List Char) :
    scanPieces (u.text ++ rest) = withPiece (.unit u.value) (scanPieces rest) := by
  simp only [UnitText.text, List.cons_append, List.nil_append, scanPieces, u.value_eq]

theorem scanPieces_glyph (g : Glyph) (rest : List Char) :
    scanPieces (g.text ++ rest) = (g.pieces ++ (scanPieces rest).1, (scanPieces rest).2) := by
  cases g with
  | plain c quotable => exact scanPieces_plain rest quotable.2.1 quotable.2.2 quotable.1
  | short mark c escape =>
    have hmark : mark ≠ 'u' := by
      rintro rfl
      cases escape
    exact scanPieces_escaped rest hmark escape
  | code u whole => exact scanPieces_unit u rest
  | pair high low halves =>
    rw [Glyph.text, List.append_assoc, scanPieces_unit, scanPieces_unit]
    rfl

theorem scanPieces_text (gs : StringText) (rest : List Char) :
    scanPieces (gs.flatMap Glyph.text ++ '"' :: rest) = (gs.flatMap Glyph.pieces, .ok rest) := by
  induction gs with
  | nil => rfl
  | cons g gs ih => rw [List.flatMap_cons, List.append_assoc, scanPieces_glyph, ih, List.flatMap_cons]

/-- The pieces of a character are put together to it, whatever comes after them. -/
theorem joinPieces_glyph (g : Glyph) (ps : List Piece) :
    joinPieces none (g.pieces ++ ps) = (joinPieces none ps).map (g.char :: ·) := by
  cases g with
  | plain | short => rfl
  | code u whole =>
    obtain ⟨hhigh, hlow⟩ := whole
    cases ps with
    | nil => simp [Glyph.pieces, Glyph.char, joinPieces, hhigh, hlow]
    | cons p ps => cases p <;> simp [Glyph.pieces, Glyph.char, joinPieces, hhigh, hlow]
  | pair high low halves => simp [Glyph.pieces, Glyph.char, joinPieces, halves]

theorem joinPieces_text (gs : StringText) : joinPieces none (gs.flatMap Glyph.pieces) = .ok (gs.map Glyph.char) := by
  induction gs with
  | nil => rfl
  | cons g gs ih =>
    rw [List.flatMap_cons, joinPieces_glyph, ih]
    rfl

/-- A string is read as the characters that are written. -/
theorem stringToken_text (gs : StringText) (rest : List Char) :
    stringToken (gs.flatMap Glyph.text ++ '"' :: rest) = (.string (.ok gs.value), rest) := by
  rw [stringToken, scanPieces_text]
  simp only [joinPieces_text]
  rfl

theorem hexValue?_hexDigit : ∀ d < 16, Text.hexValue? (Text.hexDigit d) = some d := by
  decide

theorem unitValue?_control {n : Nat} (hn : n < 0x20) :
    unitValue? '0' '0' (Text.hexDigit (n / 16)) (Text.hexDigit (n % 16)) = some n := by
  have hzero : Text.hexValue? '0' = some 0 := by decide
  unfold unitValue?
  rw [hzero, hexValue?_hexDigit (n / 16) (by omega), hexValue?_hexDigit (n % 16) (by omega)]
  simp only [Option.some.injEq]
  omega

/-- The usual written form of a character is one of its forms. -/
theorem exists_glyph (c : Char) : ∃ g : Glyph, g.text = escape c ∧ g.char = c := by
  unfold escape
  split
  case h_8 =>
    rename_i hquote hslash _ _ _ _ _
    split
    · rename_i hc
      have hhalf : isHighHalf c.toNat = false ∧ isLowHalf c.toNat = false := by
        simp only [isHighHalf, isLowHalf, Bool.and_eq_false_iff, decide_eq_false_iff_not]
        omega
      exact ⟨.code ⟨_, _, _, _, c.toNat, unitValue?_control hc⟩ hhalf, rfl, Char.ofNat_toNat c⟩
    · rename_i hc
      exact ⟨.plain c ⟨hc, hquote, hslash⟩, rfl, rfl⟩
  all_goals exact ⟨.short _ _ rfl, rfl, rfl⟩

theorem exists_stringText (s : String) : ∃ gs : StringText, gs.text = renderString s ∧ gs.value = s := by
  have hglyphs (cs : List Char) :
      ∃ gs : List Glyph, gs.flatMap Glyph.text = cs.flatMap escape ∧ gs.map Glyph.char = cs := by
    induction cs with
    | nil => exact ⟨[], rfl, rfl⟩
    | cons c cs ih =>
      obtain ⟨gs, htext, hchars⟩ := ih
      obtain ⟨g, hg, hc⟩ := exists_glyph c
      exact ⟨g :: gs, by simp [htext, hg], by simp [hchars, hc]⟩
  obtain ⟨gs, htext, hchars⟩ := hglyphs s.toList
  refine ⟨gs, ?_, ?_⟩
  · rw [StringText.text, htext, renderString]
    rfl
  · rw [StringText.value, hchars, String.ofList_toList]

end PaddleLink.Json
