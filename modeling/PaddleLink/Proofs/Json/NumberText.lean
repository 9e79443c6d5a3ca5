import PaddleLink.Json.Token

namespace PaddleLink.Json

structure Digits where
  text : List Char
  ne_nil : text ≠ []
  isDigit : ∀ c ∈ text, c.isDigit = true

def Digits.values (ds : Digits) : List Nat :=
  ds.text.map digitValue

structure Exponent where
  mark : Char
  sign : List Char
  digits : Digits
  mark_mem : mark ∈ ['e', 'E']
  sign_mem : sign ∈ [[], ['+'], ['-']]

def Exponent.text (e : Exponent) : List Char :=
  e.mark :: (e.sign ++ e.digits.text)

/-- A number: an optional minus sign, digits without needless zeros in front, an optional fraction and an optional
exponent. -/
structure NumberText where
  negative : Bool
  whole : Digits
  fraction : Option Digits
  exponent : Option Exponent
  zero_alone : whole.text.head? = some '0' → whole.text = ['0']

def NumberText.text (n : NumberText) : List Char :=
  (if n.negative then ['-'] else []) ++ (n.whole.text ++
    (n.fraction.elim [] (fun ds => '.' :: ds.text) ++ n.exponent.elim [] Exponent.text))

def NumberText.numeral (n : NumberText) : Numeral where
  negative := n.negative
  whole := n.whole.values
  fraction := n.fraction.elim [] Digits.values
  exponent := n.exponent.map fun e => (decide (e.sign = ['-']), e.digits.values)

def Stops (rest : List Char) : Prop :=
  ∀ c ∈ rest.head?, c.isDigit = false ∧ c ≠ '.' ∧ c ≠ 'e' ∧ c ≠ 'E'

theorem stops_cons {c : Char} (cs : List Char)
    (h : c.isDigit = false ∧ c ≠ '.' ∧ c ≠ 'e' ∧ c ≠ 'E') : Stops (c :: cs) := by
  intro d hd
  cases hd
  exact h

def NoDigit (rest : List Char) : Prop :=
  ∀ c ∈ rest.head?, c.isDigit = false

theorem Stops.noDigit {rest : List Char} (h : Stops rest) : NoDigit rest :=
  fun c hc => (h c hc).1

theorem noDigit_cons {c : Char} (h : c.isDigit = false) (cs : List Char) : NoDigit (c :: cs) := by
  intro d hd
  cases hd
  exact h

theorem takeWhile_of_noDigit {rest : List Char} (h : NoDigit rest) : rest.takeWhile Char.isDigit = [] := by
  cases rest with
  | nil => rfl
  | cons c rest => simp [h c rfl]

theorem leadingDigits_of_noDigit {rest : List Char} (h : NoDigit rest) : leadingDigits rest = [] := by
  rw [leadingDigits, takeWhile_of_noDigit h, List.map_nil]

theorem afterDigits_of_noDigit {rest : List Char} (h : NoDigit rest) : afterDigits rest = rest := by
  have hwhole := List.takeWhile_append_dropWhile (p := Char.isDigit) (l := rest)
  rwa [takeWhile_of_noDigit h, List.nil_append] at hwhole

theorem scanDigits_text (ds : Digits) {rest : List Char} (h : NoDigit rest) :
    scanDigits (ds.text ++ rest) = .ok (ds.values, rest) := by
  have hlead : leadingDigits (ds.text ++ rest) = ds.values := by
    rw [leadingDigits, List.takeWhile_append_of_pos ds.isDigit, takeWhile_of_noDigit h, List.append_nil, Digits.values]
  have hafter : afterDigits (ds.text ++ rest) = rest := by
    rw [afterDigits, List.dropWhile_append_of_pos ds.isDigit]
    exact afterDigits_of_noDigit h
  have hvalues : ds.values.isEmpty = false := by simpa [Digits.values] using ds.ne_nil
  rw [scanDigits, hlead, hafter, if_neg (by simp [hvalues])]

theorem Digits.exists_head (ds : Digits) : ∃ c cs, ds.text = c :: cs ∧ c.isDigit = true := by
  obtain ⟨c, cs, htext⟩ := List.exists_cons_of_ne_nil ds.ne_nil
  exact ⟨c, cs, htext, ds.isDigit c (by simp [htext])⟩

theorem Digits.append_ne_cons (ds : Digits) {c : Char} (hc : c.isDigit = false) (rest tail : List Char) :
    ds.text ++ rest ≠ c :: tail := by
  obtain ⟨d, cs, htext, hd⟩ := ds.exists_head
  rw [htext]
  intro h
  cases h
  rw [hd] at hc
  cases hc

theorem scanWhole_text (n : NumberText) {rest : List Char} (h : NoDigit rest) :
    scanWhole (n.whole.text ++ rest) = .ok (n.whole.values, rest) := by
  unfold scanWhole
  split
  · rename_i cs htext
    obtain ⟨d, ds, hwhole, -⟩ := n.whole.exists_head
    have hd : d = '0' := by
      rw [hwhole] at htext
      exact (List.cons.inj htext).1
    have hzero : n.whole.text = ['0'] := n.zero_alone (by rw [hwhole, hd]; rfl)
    rw [hzero] at htext
    obtain rfl : rest = cs := (List.cons.inj htext).2
    rw [leadingDigits_of_noDigit h, Digits.values, hzero]
    rfl
  · exact scanDigits_text n.whole h

theorem scanFraction_text (fraction : Option Digits) {rest : List Char} (h : NoDigit rest)
    (hpoint : ∀ c ∈ rest.head?, c ≠ '.') :
    scanFraction (fraction.elim [] (fun ds => '.' :: ds.text) ++ rest) =
      .ok (fraction.elim [] Digits.values, rest) := by
  cases fraction with
  | some ds => exact scanDigits_text ds h
  | none =>
    unfold scanFraction
    split
    · rename_i cs he
      exact absurd rfl (hpoint '.' (by rw [Option.elim_none, List.nil_append] at he; rw [he]; rfl))
    · rfl

theorem scanExponentDigits_text (negative : Bool) (ds : Digits) {rest : List Char} (h : NoDigit rest) :
    scanExponentDigits negative (ds.text ++ rest) = .ok (some (negative, ds.values), rest) := by
  rw [scanExponentDigits, scanDigits_text ds h]
  rfl

theorem scanSignedExponent_text (e : Exponent) {rest : List Char} (h : NoDigit rest) :
    scanSignedExponent (e.sign ++ (e.digits.text ++ rest)) =
      .ok (some (decide (e.sign = ['-']), e.digits.values), rest) := by
  have hsign := e.sign_mem
  simp only [List.mem_cons, List.not_mem_nil, or_false] at hsign
  rcases hsign with hsign | hsign | hsign <;> rw [hsign]
  · rw [List.nil_append]
    unfold scanSignedExponent
    split
    · rename_i he
      exact absurd he (e.digits.append_ne_cons rfl _ _)
    · rename_i he
      exact absurd he (e.digits.append_ne_cons rfl _ _)
    · exact scanExponentDigits_text false e.digits h
  · exact scanExponentDigits_text false e.digits h
  · exact scanExponentDigits_text true e.digits h

theorem scanExponent_text (exponent : Option Exponent) {rest : List Char} (h : Stops rest) :
    scanExponent (exponent.elim [] Exponent.text ++ rest) =
      .ok (exponent.map fun e => (decide (e.sign = ['-']), e.digits.values), rest) := by
  cases exponent with
  | none =>
    rw [Option.elim_none, List.nil_append]
    unfold scanExponent
    split
    · exact absurd rfl (h 'e' rfl).2.2.1
    · exact absurd rfl (h 'E' rfl).2.2.2
    · rfl
  | some e =>
    have htext : Exponent.text e ++ rest = e.mark :: (e.sign ++ (e.digits.text ++ rest)) := by
      simp [Exponent.text]
    have hscan := scanSignedExponent_text e h.noDigit
    have hmark := e.mark_mem
    simp only [List.mem_cons, List.not_mem_nil, or_false] at hmark
    rw [Option.elim_some, htext]
    rcases hmark with hmark | hmark <;> rw [hmark] <;> exact hscan

theorem head_of_exponent (exponent : Option Exponent) {rest : List Char} (h : Stops rest) :
    ∀ c ∈ (exponent.elim [] Exponent.text ++ rest).head?, c.isDigit = false ∧ c ≠ '.' := by
  cases exponent with
  | none => exact fun c hc => ⟨(h c hc).1, (h c hc).2.1⟩
  | some e =>
    have hmark : ∀ c ∈ ['e', 'E'], c.isDigit = false ∧ c ≠ '.' :=
      List.forall_mem_cons.mpr ⟨by decide, List.forall_mem_singleton.mpr (by decide)⟩
    intro c hc
    cases hc
    exact hmark e.mark e.mark_mem

theorem scanUnsigned_text (n : NumberText) {rest : List Char} (h : Stops rest) :
    scanUnsigned n.negative (n.whole.text ++ (n.fraction.elim [] (fun ds => '.' :: ds.text) ++
      (n.exponent.elim [] Exponent.text ++ rest))) = .ok (n.numeral, rest) := by
  -- each part ends where the next one begins, since none of them begins with a digit
  have hexponent := head_of_exponent n.exponent h
  have hdigit : NoDigit (n.exponent.elim [] Exponent.text ++ rest) := fun c hc => (hexponent c hc).1
  have hfraction : NoDigit (n.fraction.elim [] (fun ds => '.' :: ds.text) ++
      (n.exponent.elim [] Exponent.text ++ rest)) := by
    cases n.fraction with
    | none => exact hdigit
    | some ds => exact noDigit_cons rfl _
  rw [scanUnsigned, scanWhole_text n hfraction]
  simp only [bind, Except.bind, scanFraction_text n.fraction hdigit fun c hc => (hexponent c hc).2,
    scanExponent_text n.exponent h]
  rfl

/-- A number is read as it is written, in front of anything that does not go on with it. -/
theorem scanNumber_text (n : NumberText) {rest : List Char} (h : Stops rest) :
    scanNumber (n.text ++ rest) = .ok (n.numeral, rest) := by
  have hscan := scanUnsigned_text n h
  have hnegative := n.negative.eq_false_or_eq_true
  simp only [NumberText.text, List.append_assoc]
  rcases hnegative with hnegative | hnegative <;> rw [hnegative] at hscan ⊢
  · exact hscan
  · rw [if_neg Bool.false_ne_true, List.nil_append]
    unfold scanNumber
    split
    · rename_i he
      exact absurd he (n.whole.append_ne_cons rfl _ _)
    · exact hscan

theorem exists_digits {cs left : List Char} {ds : List Nat} (h : scanDigits cs = .ok (ds, left)) :
    ∃ digits : Digits, cs = digits.text ++ left := by
  unfold scanDigits at h
  split at h
  · cases h
  · rename_i hlead
    cases h
    have hne : cs.takeWhile Char.isDigit ≠ [] := by simpa [leadingDigits] using hlead
    have hall : ∀ c ∈ cs.takeWhile Char.isDigit, c.isDigit = true :=
      List.all_eq_true.mp List.all_takeWhile
    exact ⟨⟨_, hne, hall⟩, List.takeWhile_append_dropWhile.symm⟩

theorem exists_whole {cs left : List Char} {ds : List Nat} (h : scanWhole cs = .ok (ds, left)) :
    ∃ digits : Digits, cs = digits.text ++ left ∧ (digits.text.head? = some '0' → digits.text = ['0']) := by
  unfold scanWhole at h
  split at h
  · split at h
    · cases h
      exact ⟨⟨['0'], List.cons_ne_nil _ _, List.forall_mem_singleton.mpr rfl⟩, rfl, fun _ => rfl⟩
    · cases h
  · rename_i hzero
    obtain ⟨digits, rfl⟩ := exists_digits h
    refine ⟨digits, rfl, fun hhead => ?_⟩
    obtain ⟨c, cs, htext, -⟩ := digits.exists_head
    rw [htext] at hhead
    cases hhead
    exact absurd (by rw [htext]; rfl) (hzero (cs ++ left))

theorem exists_fraction {cs left : List Char} {ds : List Nat} (h : scanFraction cs = .ok (ds, left)) :
    ∃ fraction : Option Digits, cs = fraction.elim [] (fun ds => '.' :: ds.text) ++ left := by
  unfold scanFraction at h
  split at h
  · obtain ⟨digits, rfl⟩ := exists_digits h
    exact ⟨some digits, rfl⟩
  · cases h
    exact ⟨none, rfl⟩

theorem exists_exponentDigits {cs left : List Char} {negative : Bool} {e : Option (Bool × List Nat)}
    (h : scanExponentDigits negative cs = .ok (e, left)) : ∃ digits : Digits, cs = digits.text ++ left := by
  unfold scanExponentDigits at h
  cases hd : scanDigits cs with
  | error b =>
    rw [hd] at h
    cases h
  | ok r =>
    obtain ⟨ds, left'⟩ := r
    rw [hd] at h
    cases h
    exact exists_digits hd

theorem exists_signedExponent {cs left : List Char} {e : Option (Bool × List Nat)}
    (h : scanSignedExponent cs = .ok (e, left)) :
    ∃ (sign : List Char) (digits : Digits), sign ∈ [[], ['+'], ['-']] ∧ cs = sign ++ digits.text ++ left := by
  unfold scanSignedExponent at h
  split at h
  · obtain ⟨digits, rfl⟩ := exists_exponentDigits h
    exact ⟨['+'], digits, by decide, rfl⟩
  · obtain ⟨digits, rfl⟩ := exists_exponentDigits h
    exact ⟨['-'], digits, by decide, rfl⟩
  · obtain ⟨digits, rfl⟩ := exists_exponentDigits h
    exact ⟨[], digits, by decide, rfl⟩

theorem exists_exponent {cs left : List Char} {e : Option (Bool × List Nat)} (h : scanExponent cs = .ok (e, left)) :
    ∃ exponent : Option Exponent, cs = exponent.elim [] Exponent.text ++ left := by
  unfold scanExponent at h
  split at h
  · obtain ⟨sign, digits, hsign, rfl⟩ := exists_signedExponent h
    exact ⟨some ⟨'e', sign, digits, by decide, hsign⟩, by simp [Exponent.text]⟩
  · obtain ⟨sign, digits, hsign, rfl⟩ := exists_signedExponent h
    exact ⟨some ⟨'E', sign, digits, by decide, hsign⟩, by simp [Exponent.text]⟩
  · cases h
    exact ⟨none, rfl⟩

theorem exists_unsigned {cs left : List Char} {negative : Bool} {n : Numeral}
    (h : scanUnsigned negative cs = .ok (n, left)) :
    ∃ t : NumberText, (if negative then ['-'] else []) ++ cs = t.text ++ left := by
  unfold scanUnsigned at h
  simp only [bind, Except.bind] at h
  cases hw : scanWhole cs with
  | error b =>
    rw [hw] at h
    cases h
  | ok r =>
    obtain ⟨whole, cs'⟩ := r
    rw [hw] at h
    simp only at h
    cases hf : scanFraction cs' with
    | error b =>
      rw [hf] at h
      cases h
    | ok r =>
      obtain ⟨fraction, cs''⟩ := r
      rw [hf] at h
      simp only at h
      cases he : scanExponent cs'' with
      | error b =>
        rw [he] at h
        cases h
      | ok r =>
        obtain ⟨exponent, left'⟩ := r
        rw [he] at h
        cases h
        obtain ⟨digits, rfl, hzero⟩ := exists_whole hw
        obtain ⟨fraction, rfl⟩ := exists_fraction hf
        obtain ⟨exponent, rfl⟩ := exists_exponent he
        exact ⟨⟨negative, digits, fraction, exponent, hzero⟩, by simp [NumberText.text]⟩

/-- Whatever is read as a number is written as one. -/
theorem exists_numberText {cs left : List Char} {n : Numeral} (h : scanNumber cs = .ok (n, left)) :
    ∃ t : NumberText, cs = t.text ++ left := by
  unfold scanNumber at h
  split at h
  · exact exists_unsigned h
  · exact exists_unsigned h

theorem exists_numberText_eq {cs : List Char} {n : Numeral} (h : scanNumber cs = .ok (n, [])) :
    ∃ t : NumberText, t.text = cs := by
  obtain ⟨t, ht⟩ := exists_numberText h
  exact ⟨t, by rw [ht, List.append_nil]⟩

end PaddleLink.Json
