import PaddleLink.Proofs.Decimal.Magnitude

namespace PaddleLink.Decimal

open Float.Model Float.Model.UnpackedFloat

theorem log2_div_two_pow {m k : Nat} (hm : m ≠ 0) (hk : k ≤ m.log2) : (m / 2 ^ k).log2 = m.log2 - k := by
  have hlow := Nat.log2_self_le hm
  have hhigh := @Nat.lt_log2_self m
  have hsplit : 2 ^ (m.log2 - k) * 2 ^ k = 2 ^ m.log2 := by rw [← Nat.pow_add, Nat.sub_add_cancel hk]
  have hle : 2 ^ (m.log2 - k) ≤ m / 2 ^ k := by
    rw [Nat.le_div_iff_mul_le (Nat.two_pow_pos k), hsplit]
    exact hlow
  have hlt : m / 2 ^ k < 2 ^ (m.log2 - k + 1) := by
    rw [Nat.div_lt_iff_lt_mul (Nat.two_pow_pos k), Nat.pow_succ, Nat.mul_right_comm, hsplit, ← Nat.pow_succ]
    exact hhigh
  have hpos : m / 2 ^ k ≠ 0 := Nat.ne_of_gt (Nat.lt_of_lt_of_le (Nat.two_pow_pos _) hle)
  exact (Nat.log2_eq_iff hpos).mpr ⟨hle, hlt⟩

theorem le_roundedMantissa (em : ExtendedMantissa) : em.mantissa ≤ em.roundedMantissa := by
  obtain ⟨m, r, s⟩ := em
  cases r <;> cases s <;>
    simp only [ExtendedMantissa.roundedMantissa, ExtendedMantissa.accuracy, Accuracy.roundToNearestEven] <;> omega

theorem totalExponent_of_log2 {m : Nat} (h : m.log2 = 52) (e : Int) : totalExponent m e = e + 53 := by
  unfold totalExponent
  omega

/-- A shift to the target exponent leaves 53 bits of a number that has at least as many. -/
theorem shiftToTargetExponent_normal {m : Nat} {e : Int} (acc : Accuracy) (hm : 52 ≤ m.log2)
    (ht : -1021 ≤ totalExponent m e) :
    let r := shiftToTargetExponent Format.binary64 m e acc
    r.1.mantissa.log2 = 52 ∧ totalExponent r.1.mantissa r.2 = totalExponent m e := by
  intro r
  have hne : m ≠ 0 := by
    rintro rfl
    simp at hm
  have hshift : (Format.binary64.targetExponent (totalExponent m e) - e).toNat = m.log2 - 52 := by
    rw [targetExponent_binary64]
    unfold totalExponent at ht ⊢
    omega
  have hmantissa : r.1.mantissa = m / 2 ^ (m.log2 - 52) := by
    rw [← hshift]
    exact mantissa_shiftToTargetExponent m e acc
  have hexponent : r.2 = e + (m.log2 - 52 : Nat) := by
    rw [← hshift]
    rfl
  have hlog : r.1.mantissa.log2 = 52 := by
    rw [hmantissa, log2_div_two_pow hne (Nat.sub_le ..)]
    omega
  refine ⟨hlog, ?_⟩
  rw [hexponent]
  unfold totalExponent
  rw [hlog]
  omega

/-- A number with enough bits is rounded to a normal one, which is at least as large. -/
theorem roundWithAccuracy_normal {m : Nat} {e : Int} (s : Sign) (acc : Accuracy) (hm : 52 ≤ m.log2)
    (ht : -1021 ≤ totalExponent m e) :
    ∃ n f hn, roundWithAccuracy Format.binary64 s m e acc = .finite s n f hn ∧ n.log2 = 52 ∧
      totalExponent m e ≤ f + 53 ∧ f + 53 ≤ totalExponent m e + 1 := by
  obtain ⟨hlog, htotal⟩ := shiftToTargetExponent_normal acc hm ht
  generalize hfirst : shiftToTargetExponent Format.binary64 m e acc = first at hlog htotal
  have hlower := le_roundedMantissa first.1
  have hupper := totalExponent_le_succ (roundedMantissa_le first.1) first.2
  have hfirstpos : first.1.mantissa ≠ 0 := by
    intro hzero
    rw [hzero] at hlog
    cases hlog
  have hroundlog : 52 ≤ first.1.roundedMantissa.log2 := by
    rw [Nat.le_log2 (by omega)]
    have hpow := Nat.log2_self_le hfirstpos
    rw [hlog] at hpow
    omega
  have hroundtotal : totalExponent m e ≤ totalExponent first.1.roundedMantissa first.2 := by
    rw [← htotal]
    unfold totalExponent
    omega
  obtain ⟨hlog', htotal'⟩ := shiftToTargetExponent_normal .exact hroundlog (Int.le_trans ht hroundtotal)
  have hcases := roundWithAccuracy_cases s m e acc
  rw [hfirst] at hcases
  rcases hcases with ⟨hzero, -⟩ | ⟨hn, hx⟩
  · rw [hzero] at hlog'
    cases hlog'
  · refine ⟨_, _, hn, hx, hlog', ?_⟩
    rw [totalExponent_of_log2 hlog'] at htotal'
    omega

/-- Packing does not make a normal number smaller. -/
theorem atLeast_unpack_pack {s : Sign} {m : Nat} {e : Int} (hm : 0 < m) (hlog : m.log2 = 52) (hlow : -1074 ≤ e)
    (he : e ≤ 971) :
    AtLeast (e + 53) (UnpackedFloat.unpack Format.binary64 (UnpackedFloat.pack Format.binary64 (.finite s m e hm))) := by
  have hbits := toNat_unpackExponent_pack (s := s) hm he
  rw [if_pos hlog] at hbits
  generalize UnpackedFloat.pack Format.binary64 (.finite s m e hm) = b at hbits
  have hones : unpackExponent b ≠ (-1#_) := by
    intro hones
    rw [hones] at hbits
    change 2047 = _ at hbits
    omega
  have hnormal : unpackExponent b ≠ 0#_ := by
    intro hzero
    rw [hzero] at hbits
    change 0 = _ at hbits
    omega
  rcases unpack_cases hones with ⟨hzero, -⟩ | ⟨hzero, -⟩ | ⟨t, hm', hx⟩
  · exact absurd hzero hnormal
  · exact absurd hzero hnormal
  · have hfull : 52 ≤ (1#1 ++ unpackMantissa b).toNat.log2 :=
      (Nat.le_log2 (Nat.ne_of_gt hm')).mpr (two_pow_le_append (unpackMantissa b))
    rw [hx]
    show e + 53 ≤ totalExponent _ _
    unfold totalExponent
    omega

theorem log2_ten_pow_le {n k : Nat} (h : n ≤ 3 * k) : (10 ^ n).log2 ≤ 10 * k := by
  apply log2_le_of_lt
  calc
    10 ^ n ≤ 10 ^ (3 * k) := Nat.pow_le_pow_right (by decide) h
    _ = (10 ^ 3) ^ k := Nat.pow_mul ..
    _ ≤ (2 ^ 10) ^ k := Nat.pow_le_pow_left (by decide) k
    _ = 2 ^ (10 * k) := (Nat.pow_mul ..).symm
    _ < 2 ^ (10 * k + 1) := Nat.pow_lt_pow_succ (by decide)

/-- A decimal without places is a product that is rounded once. -/
theorem ofScientific_of_natural {m n : Nat} (hm : m ≠ 0) (hn : n ≤ 2048) :
    UnpackedFloat.ofScientific Format.binary64 m n =
      roundWithAccuracy Format.binary64 (.positive * .positive) (m <<< 53 * 10 ^ n) (-53 + 0) .exact := by
  have hhigh : ¬ ((n : Int) > 2 ^ Format.binary64.exponentBits) := by
    change ¬ ((n : Int) > 2048)
    omega
  have hlow : ¬ ((n : Int) < -((2 ^ Format.binary64.exponentBits : Int) + m.log2)) := by
    change ¬ ((n : Int) < -(2048 + m.log2))
    omega
  unfold UnpackedFloat.ofScientific
  rw [dif_neg hm, if_neg hhigh, if_neg hlow, if_pos (by omega)]
  rfl

/-- Powers of ten that are not in the table of exact ones. The last two are close to the largest number. -/
theorem atLeast_powerOfTen_of_large {n : Nat} (hlow : 22 < n) (hhigh : n ≤ 3 * 102) :
    AtLeast 2 (powerOfTen n).toModel.unpack := by
  have hslow : ¬ (1 < 2 ^ 53 ∧ n ≤ 22) := fun h => by omega
  have hscientific := ofScientific_of_natural (m := 1) (n := n) (by decide) (by omega)
  have htwo : 2 ≤ 10 ^ n := Nat.le_trans (by decide) (Nat.pow_le_pow_right (by decide) hlow)
  have hleast : 54 ≤ (1 <<< 53 * 10 ^ n).log2 := by
    rw [Nat.le_log2 (by omega)]
    omega
  have hlog10 := log2_ten_pow_le hhigh
  -- the place of the product is that of its factors, and 10 ^ 306 has at most 1021 bits
  have hone : totalExponent (1 <<< 53) (-53) = 1 := by decide
  have hproduct := totalExponent_mul_le (1 <<< 53) (10 ^ n) (-53) 0
  rw [hone] at hproduct
  obtain ⟨m, e, hm, hx, hlog, hplace, hplace'⟩ := roundWithAccuracy_normal (.positive * .positive) .exact
    (m := 1 <<< 53 * 10 ^ n) (e := -53 + 0) (by omega) (by unfold totalExponent; omega)
  unfold totalExponent at hplace hplace' hproduct
  have hpacked := atLeast_unpack_pack (s := .positive * .positive) (e := e) hm hlog (by omega) (by omega)
  unfold powerOfTen Float.ofScientific
  rw [dif_neg hslow]
  change AtLeast 2 (UnpackedFloat.unpack Format.binary64 (UnpackedFloat.pack Format.binary64
    (UnpackedFloat.ofScientific Format.binary64 1 n)))
  rw [hscientific, hx]
  exact hpacked.mono (by omega)

/-- No power of ten is below one, and only the first one is below two. -/
theorem atLeast_powerOfTen {n : Nat} (hn : n < 309) :
    AtLeast ((min n 1 : Nat) + 1) (powerOfTen n).toModel.unpack := by
  have hends : ∀ n : Nat, n < 309 → n < 23 ∨ 306 < n →
      AtLeast ((min n 1 : Nat) + 1) (powerOfTen n).toModel.unpack := by
    decide +kernel
  by_cases hend : n < 23 ∨ 306 < n
  · exact hends n hn hend
  · have hmin : ((min n 1 : Nat) + 1 : Int) = 2 := by omega
    rw [hmin]
    exact atLeast_powerOfTen_of_large (by omega) (by omega)

end PaddleLink.Decimal
