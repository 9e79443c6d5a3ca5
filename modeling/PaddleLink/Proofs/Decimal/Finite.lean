import PaddleLink.Proofs.Decimal.Normal

namespace PaddleLink.Decimal

open Float.Model Float.Model.UnpackedFloat

theorem unpack_toModel_mul (x y : Float) :
    (x * y).toModel.unpack = UnpackedFloat.unpack Format.binary64
      (UnpackedFloat.pack Format.binary64 (UnpackedFloat.mul Format.binary64 x.toModel.unpack y.toModel.unpack)) :=
  rfl

theorem unpack_toModel_div (x y : Float) :
    (x / y).toModel.unpack = UnpackedFloat.unpack Format.binary64
      (UnpackedFloat.pack Format.binary64 (UnpackedFloat.div Format.binary64 x.toModel.unpack y.toModel.unpack)) :=
  rfl

/-- The product of finite numbers is a number. -/
theorem isFinite_mul {x y : Float} (hx : x.isFinite = true) (hy : y.isFinite = true)
    (hinf : (x * y).isInf = false) : (x * y).isFinite = true := by
  have hnan : (x * y).isNaN = false := by
    change (x * y).toModel.unpack.isNaN = false
    rw [unpack_toModel_mul]
    apply isNaN_unpack_pack
    exact isNaN_mul hx hy
  change (x * y).toModel.unpack.isInf = false at hinf
  change (x * y).toModel.unpack.isNaN = false at hnan
  change (x * y).toModel.unpack.isFinite = true
  revert hinf hnan
  cases (x * y).toModel.unpack with
  | infinity => intro hinf; cases hinf
  | notANumber => intro _ hnan; cases hnan
  | zero | finite => intros; rfl

theorem isFinite_neg {x : Float} (hx : x.isFinite = true) : (-x).isFinite = true :=
  isFinite_neg_unpack hx

theorem below_toFloat (n : UInt64) : Below 65 n.toFloat.toModel.unpack := by
  have hlog : n.toNat.log2 ≤ 63 := log2_le_of_lt n.toNat_lt
  have hround : Below 65 (UnpackedFloat.ofNat Format.binary64 n.toNat) := by
    unfold UnpackedFloat.ofNat UnpackedFloat.ofInt UnpackedFloat.normalize
    split
    · rename_i h
      simp only [Int.compare_eq_lt] at h
      omega
    · trivial
    · have htotal : totalExponent (n.toNat : Int).toNat 0 ≤ 64 := by
        unfold totalExponent
        rw [Int.toNat_natCast]
        omega
      exact below_round _ htotal (by omega)
  exact below_unpack_pack hround (by omega) (by omega)

theorem below_ofScientific {m : Nat} (hm : m.log2 ≤ 63) :
    Below 70 (UnpackedFloat.ofScientific Format.binary64 m (0 : Nat)) := by
  by_cases hzero : m = 0
  · subst hzero
    trivial
  · have hlog : (m <<< 53 / 1).log2 ≤ m.log2 + 53 := log2_shiftLeft_div_le Nat.one_pos (by simp)
    rw [Nat.div_one] at hlog
    have hone : totalExponent (10 ^ 0) 0 = 1 := by decide
    have hproduct := totalExponent_mul_le (m <<< 53) (10 ^ 0) (-53) 0
    have htotal : totalExponent (m <<< 53 * 10 ^ 0) (-53 + 0) ≤ 65 := by
      rw [hone] at hproduct
      unfold totalExponent at hproduct ⊢
      omega
    rw [ofScientific_of_natural hzero (by decide)]
    generalize m <<< 53 * 10 ^ 0 = product, (-53 + 0 : Int) = place at htotal ⊢
    exact (below_roundWithAccuracy _ _ htotal (by decide)).mono (by decide)

theorem below_ofNat {n : Nat} (hn : n < 2 ^ 64) : Below 70 (Float.ofNat n).toModel.unpack := by
  change Below 70 (Float.ofScientific n false 0).toModel.unpack
  unfold Float.ofScientific
  split
  · have hone : Below 1 (Float.ofBits 0x3FF0000000000000).toModel.unpack := by
      change totalExponent _ _ ≤ 1
      decide
    have hmul := below_mul (below_toFloat n.toUInt64) hone (by omega)
    exact below_unpack_pack (hmul.mono (by omega)) (by omega) (by omega)
  · have hscientific := below_ofScientific (log2_le_of_lt (k := 63) hn)
    exact below_unpack_pack hscientific (by omega) (by omega)

theorem below_div_of_atLeast {a b : Int} {x y : Float} (hx : Below a x.toModel.unpack)
    (hy : AtLeast b y.toModel.unpack) (hb : b ≤ a + 1) (hmax : a - b + 2 ≤ 900) :
    Below (a - b + 2) (x / y).toModel.unpack := by
  rw [unpack_toModel_div]
  exact below_unpack_pack (below_div hx hy hb) (by omega) hmax

theorem below_div_powerOfTen {a : Int} {x : Float} {n : Nat} (hx : Below a x.toModel.unpack) (ha : 1 ≤ a)
    (hmax : a ≤ 800) (hn : n < 309) : Below (a + 1 - (min n 1 : Nat)) (x / powerOfTen n).toModel.unpack := by
  have hdiv := below_div_of_atLeast hx (atLeast_powerOfTen hn) (by omega) (by omega)
  exact hdiv.mono (by omega)

theorem below_divide {a : Int} {x : Float} (hx : Below a x.toModel.unpack) (ha : 1 ≤ a) (hmax : a ≤ 800) (n : Nat) :
    Below (a + 1) (divide x n).toModel.unpack := by
  induction x, n using divide.induct with
  | case1 x n h =>
    rw [divide, if_pos h]
    exact (below_div_powerOfTen hx ha hmax (by omega)).mono (by omega)
  | case2 x n h hzero =>
    rw [divide, if_neg h, if_pos hzero]
    exact hx.mono (by omega)
  | case3 x n h hzero ih =>
    rw [divide, if_neg h, if_neg hzero]
    exact ih ((below_div_powerOfTen hx ha hmax (by omega)).mono (by omega))

/-- A decimal with a significand of 64 bits is read as a finite number. -/
theorem isFinite_of_toFloat? {significand : Nat} {exponent : Int} {x : Float} (hs : significand < 2 ^ 64)
    (h : toFloat? significand exponent = some x) : x.isFinite = true := by
  have hbelow := below_ofNat hs
  unfold toFloat? at h
  split at h
  · cases h
    exact (below_divide hbelow (by omega) (by omega) _).isFinite
  · split at h
    · simp only at h
      split at h
      · cases h
      · rename_i hle hinf
        cases h
        have hpower := (atLeast_powerOfTen (by omega : exponent.toNat < 309)).isFinite
        exact isFinite_mul hbelow.isFinite hpower (by simpa using hinf)
    · split at h
      · cases h
        exact hbelow.isFinite
      · cases h

/-- An integer of 64 bits and a sign is rounded to a finite number. -/
theorem isFinite_ofInt {i : Int} (hlow : -2 ^ 63 ≤ i) (hhigh : i < 2 ^ 64) : (Float.ofInt i).isFinite = true := by
  cases i with
  | ofNat n =>
    have hn : n < 2 ^ 64 := by
      simp only [Int.ofNat_eq_natCast] at hhigh
      omega
    exact (below_ofNat hn).isFinite
  | negSucc n => exact isFinite_neg (below_ofNat (by omega : n + 1 < 2 ^ 64)).isFinite

end PaddleLink.Decimal
