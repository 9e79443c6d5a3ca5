import Mathlib.Data.List.TakeWhile
import PaddleLink.Proofs.Json.Number

namespace PaddleLink.Json

open Decimal

theorem digit_spec : ∀ d < 10, (digit d).isDigit = true ∧ digitValue (digit d) = d := by
  decide

theorem digits_ne_nil (n : Nat) : digits n ≠ [] := by
  unfold digits
  split <;> simp

theorem isDigit_of_mem_digits (n : Nat) : ∀ c ∈ digits n, c.isDigit = true := by
  induction n using digits.induct with
  | case1 n hn =>
    rw [digits, if_pos hn]
    simpa using (digit_spec n hn).1
  | case2 n hn ih =>
    rw [digits, if_neg hn]
    intro c hc
    rcases List.mem_append.mp hc with hc | hc
    · exact ih c hc
    · rw [List.mem_singleton.mp hc]
      exact (digit_spec (n % 10) (Nat.mod_lt n (by decide))).1

/-- No number but zero begins with the digit zero. -/
theorem digits_ne_zero_cons {n : Nat} (hn : n ≠ 0) (tail : List Char) : digits n ≠ '0' :: tail := by
  induction n using digits.induct generalizing tail with
  | case1 n hlt =>
    have hdigit : ∀ d < 10, d ≠ 0 → digit d ≠ '0' := by decide
    rw [digits, if_pos hlt]
    intro h
    exact hdigit n hlt hn (List.cons.inj h).1
  | case2 n hge ih =>
    rw [digits, if_neg hge]
    intro h
    cases hd : digits (n / 10) with
    | nil => exact digits_ne_nil _ hd
    | cons c cs =>
      rw [hd] at h
      have hc := (List.cons.inj h).1
      subst hc
      exact ih (by omega) cs hd

theorem absorb_append {significand : Nat} {ds : List Nat} (h : (absorb significand ds).2 = 0) (es : List Nat) :
    absorb significand (ds ++ es) = absorb (absorb significand ds).1 es := by
  induction ds generalizing significand with
  | nil => rfl
  | cons d ds ih =>
    simp only [absorb, List.cons_append] at h ⊢
    split
    · rename_i hd
      rw [if_pos hd] at h
      exact ih h
    · rename_i hd
      rw [if_neg hd] at h
      cases h

theorem absorb_singleton {significand d : Nat} (h : significand * 10 + d < 2 ^ 64) :
    absorb significand [d] = (significand * 10 + d, 0) := by
  have hroom : significand * 10 + d < UInt64.size := h
  rw [absorb, if_pos hroom, absorb]

/-- The digits of a number of 64 bits all find room. -/
theorem absorb_digits {n : Nat} (hn : n < 2 ^ 64) : absorb 0 ((digits n).map digitValue) = (n, 0) := by
  induction n using digits.induct with
  | case1 n hlt =>
    have hn' : 0 * 10 + n = n := by omega
    rw [digits, if_pos hlt, List.map_singleton, (digit_spec n hlt).2, absorb_singleton (hn'.symm ▸ hn), hn']
  | case2 n hge ih =>
    have hlast := (digit_spec (n % 10) (Nat.mod_lt n (by decide))).2
    have hwhole := ih (by omega)
    have hn' : n / 10 * 10 + n % 10 = n := Nat.div_add_mod' n 10
    rw [digits, if_neg hge, List.map_append, absorb_append (by rw [hwhole]), hwhole, List.map_singleton, hlast,
      absorb_singleton (hn'.symm ▸ hn), hn']

theorem scanDigits_of_all {cs : List Char} (hne : cs ≠ []) (hcs : ∀ c ∈ cs, c.isDigit = true) :
    scanDigits cs = .ok (cs.map digitValue, []) := by
  have hlead : leadingDigits cs = cs.map digitValue := by
    rw [leadingDigits, List.takeWhile_eq_self_iff.mpr hcs]
  have hafter : afterDigits cs = [] := List.dropWhile_eq_nil_iff.mpr hcs
  unfold scanDigits
  rw [hlead, hafter, if_neg (by simpa using hne)]

theorem scanWhole_digits (n : Nat) : scanWhole (digits n) = .ok ((digits n).map digitValue, []) := by
  by_cases hn : n = 0
  · subst hn
    rw [digits]
    rfl
  · have hscan := scanDigits_of_all (digits_ne_nil n) (isDigit_of_mem_digits n)
    unfold scanWhole
    split
    · rename_i he
      exact absurd he (digits_ne_zero_cons hn _)
    · exact hscan

theorem scanUnsigned_digits (negative : Bool) (n : Nat) :
    scanUnsigned negative (digits n) = .ok (⟨negative, (digits n).map digitValue, [], none⟩, []) := by
  unfold scanUnsigned
  rw [scanWhole_digits]
  rfl

theorem scanNumber_ofInt (i : Int) :
    scanNumber (ofInt i) = .ok (⟨i < 0, (digits i.natAbs).map digitValue, [], none⟩, []) := by
  cases i with
  | ofNat n =>
    have hminus (tail : List Char) : digits n ≠ '-' :: tail := by
      intro h
      have hdigit := isDigit_of_mem_digits n '-' (by rw [h]; exact List.mem_cons_self ..)
      cases hdigit
    unfold ofInt scanNumber
    split
    · rename_i he
      exact absurd he (hminus _)
    · have hsign : ¬ (Int.ofNat n < 0) := by simp
      simp only [hsign, decide_false]
      exact scanUnsigned_digits false n
  | negSucc n =>
    have hsign : Int.negSucc n < 0 := Int.negSucc_lt_zero n
    simp only [hsign, decide_true]
    exact scanUnsigned_digits true (n + 1)

/-- An integer in its range is read as it was written. -/
theorem value_ofInt {i : Int} (hlow : -2 ^ 63 ≤ i) (hhigh : i < 2 ^ 64) :
    Numeral.value ⟨i < 0, (digits i.natAbs).map digitValue, [], none⟩ = .ok (.integer i) := by
  have habsorb := absorb_digits (n := i.natAbs) (by omega)
  unfold Numeral.value
  simp only [habsorb]
  rw [if_pos ⟨rfl, rfl⟩, if_neg (by simp)]
  by_cases hi : i < 0
  · have habs : -(i.natAbs : Int) = i := by omega
    rw [if_neg (by simp [hi]), if_neg (by omega), habs]
  · have habs : (i.natAbs : Int) = i := by omega
    rw [if_pos (by simp [hi]), habs]

theorem numberToken_ofInt {i : Int} (hlow : -2 ^ 63 ≤ i) (hhigh : i < 2 ^ 64) :
    numberToken (ofInt i) = (.number (.ok (.integer i)), []) := by
  rw [numberToken, scanNumber_ofInt]
  simp only [value_ofInt hlow hhigh]

/-- A binary64 number whose text is read, up to its end, as the same number again. -/
def ReadsBack (x : Float) : Prop :=
  numberToken (ofFloat x) = (.number (.ok (.float x)), [])

end PaddleLink.Json
