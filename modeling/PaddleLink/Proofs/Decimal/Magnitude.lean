import Mathlib.Algebra.Group.Int.Defs
import Mathlib.Algebra.Group.Nat.Defs
import PaddleLink.Decimal.Reading

/-!
How large binary64 numbers can get. A bound on the place of a number's first bit is carried through rounding,
packing, multiplication and division. It is not sharp: one place is lost whenever a result is rounded.
-/

namespace PaddleLink.Decimal

open Float.Model Float.Model.UnpackedFloat

def Below (a : Int) : UnpackedFloat → Prop
  | .zero _ => True
  | .finite _ m e _ => totalExponent m e ≤ a
  | _ => False

theorem Below.mono {a b : Int} {x : UnpackedFloat} (h : Below a x) (hab : a ≤ b) : Below b x := by
  cases x with
  | zero => trivial
  | finite s m e hm => exact Int.le_trans h hab
  | infinity | notANumber => exact h

/-- A finite number from `2 ^ (b - 1)` on. -/
def AtLeast (b : Int) : UnpackedFloat → Prop
  | .finite _ m e _ => b ≤ totalExponent m e
  | _ => False

theorem AtLeast.mono {a b : Int} {x : UnpackedFloat} (h : AtLeast b x) (hab : a ≤ b) : AtLeast a x := by
  cases x with
  | finite s m e hm => exact Int.le_trans hab h
  | zero | infinity | notANumber => exact h.elim

instance (b : Int) : DecidablePred (AtLeast b)
  | .finite _ m e _ => inferInstanceAs (Decidable (b ≤ totalExponent m e))
  | .zero _ | .infinity _ | .notANumber => inferInstanceAs (Decidable False)

theorem Below.isFinite {a : Int} {x : UnpackedFloat} (h : Below a x) : x.isFinite = true := by
  cases x with
  | zero | finite => rfl
  | infinity | notANumber => exact h.elim

theorem AtLeast.isFinite {b : Int} {x : UnpackedFloat} (h : AtLeast b x) : x.isFinite = true := by
  cases x with
  | finite => rfl
  | zero | infinity | notANumber => exact h.elim

theorem log2_le_of_lt {m k : Nat} (h : m < 2 ^ (k + 1)) : m.log2 ≤ k := by
  by_cases hm : m = 0
  · simp [hm]
  · exact Nat.le_of_lt_succ ((Nat.log2_lt hm).mpr h)

theorem targetExponent_binary64 (n : Int) : Format.binary64.targetExponent n = max (n - 53) (-1074) :=
  rfl

theorem mantissa_shift (em : ExtendedMantissa) (k : Nat) : (em >>> k).mantissa = em.mantissa / 2 ^ k := by
  induction k with
  | zero => exact (Nat.div_one _).symm
  | succ k ih =>
    change (em >>> k).mantissa / 2 = _
    rw [ih, Nat.div_div_eq_div_mul, Nat.pow_succ]

theorem roundedMantissa_le (em : ExtendedMantissa) : em.roundedMantissa ≤ em.mantissa + 1 := by
  obtain ⟨m, r, s⟩ := em
  cases r <;> cases s <;>
    simp only [ExtendedMantissa.roundedMantissa, ExtendedMantissa.accuracy, Accuracy.roundToNearestEven] <;> omega

/-- Dropping bits from a number moves it up by at most the exponent that is asked for. -/
theorem totalExponent_div_le (m k : Nat) (e : Int) :
    totalExponent (m / 2 ^ k) (e + k) ≤ max (totalExponent m e) (e + k + 1) := by
  unfold totalExponent
  have hm := @Nat.lt_log2_self m
  by_cases hk : k ≤ m.log2
  · have hlt : m / 2 ^ k < 2 ^ (m.log2 - k + 1) := by
      rw [Nat.div_lt_iff_lt_mul (Nat.two_pow_pos k), ← Nat.pow_add]
      have he : m.log2 - k + 1 + k = m.log2 + 1 := by omega
      rwa [he]
    have hlog := log2_le_of_lt hlt
    omega
  · have hzero : m / 2 ^ k = 0 := by
      apply Nat.div_eq_of_lt
      exact Nat.lt_of_lt_of_le hm (Nat.pow_le_pow_right (by decide) (by omega))
    rw [hzero]
    simp only [Nat.log2_zero]
    omega

theorem totalExponent_le_succ {m n : Nat} (h : n ≤ m + 1) (e : Int) :
    totalExponent n e ≤ totalExponent m e + 1 := by
  have hm := @Nat.lt_log2_self m
  have hn : n < 2 ^ (m.log2 + 1 + 1) := by
    rw [Nat.pow_succ]
    omega
  have hlog := log2_le_of_lt hn
  unfold totalExponent
  omega

theorem mantissa_shiftToTargetExponent (m : Nat) (e : Int) (acc : Accuracy) :
    (shiftToTargetExponent Format.binary64 m e acc).1.mantissa =
      m / 2 ^ (Format.binary64.targetExponent (totalExponent m e) - e).toNat := by
  unfold shiftToTargetExponent shiftToExponent
  simp only
  rw [mantissa_shift]
  cases acc with
  | exact => rfl
  | inexact o => cases o <;> rfl

/-- What a shift to the target exponent does to a number below a bound. -/
theorem shiftToTargetExponent_le {m : Nat} {e a : Int} (acc : Accuracy) (h : totalExponent m e ≤ a) (ha : 0 ≤ a) :
    let r := shiftToTargetExponent Format.binary64 m e acc
    totalExponent r.1.mantissa r.2 ≤ a ∧ totalExponent r.1.roundedMantissa r.2 ≤ a + 1 := by
  intro r
  have hle : totalExponent r.1.mantissa r.2 ≤ a := by
    have hmantissa := mantissa_shiftToTargetExponent m e acc
    have hexponent : r.2 = e + (Format.binary64.targetExponent (totalExponent m e) - e).toNat := rfl
    have hdiv := totalExponent_div_le m (Format.binary64.targetExponent (totalExponent m e) - e).toNat e
    have htarget : Format.binary64.targetExponent (totalExponent m e) ≤ max (a - 53) (-1074) := by
      rw [targetExponent_binary64]
      omega
    have he : e + 1 ≤ a := by
      unfold totalExponent at h
      omega
    change totalExponent r.1.mantissa _ ≤ a
    rw [show r.1.mantissa = _ from hmantissa, hexponent]
    omega
  refine ⟨hle, ?_⟩
  have hround := totalExponent_le_succ (roundedMantissa_le r.1) r.2
  omega

/-- Rounding shifts twice, the second time because rounding up may have made one bit too many. -/
theorem roundWithAccuracy_cases (s : Sign) (m : Nat) (e : Int) (acc : Accuracy) :
    let first := shiftToTargetExponent Format.binary64 m e acc
    let second := shiftToTargetExponent Format.binary64 first.1.roundedMantissa first.2 .exact
    (second.1.mantissa = 0 ∧ roundWithAccuracy Format.binary64 s m e acc = .zero s) ∨
      ∃ hm, roundWithAccuracy Format.binary64 s m e acc = .finite s second.1.mantissa second.2 hm := by
  intro first second
  unfold roundWithAccuracy
  dsimp only
  by_cases hzero : second.1.mantissa = 0
  · exact .inl ⟨hzero, dif_pos hzero⟩
  · exact .inr ⟨Nat.pos_of_ne_zero hzero, dif_neg hzero⟩

theorem below_roundWithAccuracy {m : Nat} {e a : Int} (s : Sign) (acc : Accuracy) (h : totalExponent m e ≤ a)
    (ha : 0 ≤ a) : Below (a + 1) (roundWithAccuracy Format.binary64 s m e acc) := by
  have hfirst := (shiftToTargetExponent_le acc h ha).2
  have hsecond := (shiftToTargetExponent_le .exact hfirst (by omega)).1
  rcases roundWithAccuracy_cases s m e acc with ⟨-, hx⟩ | ⟨_, hx⟩
  · rw [hx]
    trivial
  · rw [hx]
    exact hsecond

theorem two_pow_le_append (v : BitVec 52) : 2 ^ 52 ≤ (1#1 ++ v).toNat := by
  rw [BitVec.toNat_append]
  exact Nat.left_le_or

/-- The numbers that are packed below the largest exponent: zeros, subnormal and normal numbers. -/
theorem unpack_cases {b : BitVec Format.binary64.numBits} (hones : unpackExponent b ≠ (-1#_)) :
    (unpackExponent b = 0#_ ∧ ∃ s, UnpackedFloat.unpack Format.binary64 b = .zero s) ∨
    (unpackExponent b = 0#_ ∧
      ∃ s hm, UnpackedFloat.unpack Format.binary64 b = .finite s (unpackMantissa b).toNat (-1074) hm) ∨
    (∃ s hm, UnpackedFloat.unpack Format.binary64 b =
      .finite s (1#1 ++ unpackMantissa b).toNat ((unpackExponent b).toNat - 1075) hm) := by
  unfold UnpackedFloat.unpack
  dsimp only
  rw [if_neg hones]
  by_cases hzero : unpackExponent b = 0#_
  · rw [if_pos hzero]
    by_cases hm : unpackMantissa b = 0#_
    · rw [dif_pos hm]
      exact .inl ⟨hzero, _, rfl⟩
    · have hpos : 0 < (unpackMantissa b).toNat := by simpa [BitVec.toNat_pos, BitVec.pos_iff_ne_zero] using hm
      rw [dif_neg hm, hzero]
      exact .inr (.inl ⟨rfl, _, hpos, rfl⟩)
  · have hpos : 0 < (1#1 ++ unpackMantissa b).toNat := Nat.lt_of_lt_of_le (by decide) (two_pow_le_append _)
    rw [if_neg hzero]
    exact .inr (.inr ⟨_, hpos, rfl⟩)

/-- The exponent's bits bound an unpacked number, unless all of them are set. -/
theorem below_unpack {b : BitVec Format.binary64.numBits} (h : (unpackExponent b).toNat < 2047) :
    Below ((unpackExponent b).toNat - 1022) (UnpackedFloat.unpack Format.binary64 b) := by
  have hones : unpackExponent b ≠ (-1#_) := by
    intro he
    rw [he] at h
    exact absurd h (by decide)
  rcases unpack_cases hones with ⟨-, s, hx⟩ | ⟨hzero, s, hm, hx⟩ | ⟨s, hm, hx⟩
  · rw [hx]
    trivial
  · have hlog := log2_le_of_lt (k := 51) (unpackMantissa b).isLt
    have hexponent : (unpackExponent b).toNat = 0 := by
      rw [hzero]
      rfl
    rw [hx, hexponent]
    show totalExponent _ _ ≤ _
    unfold totalExponent
    omega
  · have hlog := log2_le_of_lt (k := 52) (1#1 ++ unpackMantissa b).isLt
    rw [hx]
    show totalExponent _ _ ≤ _
    unfold totalExponent
    omega

theorem exponent_le_of_unpack {b : BitVec Format.binary64.numBits} {s : Sign} {m : Nat} {e : Int} {hm : 0 < m}
    (h : UnpackedFloat.unpack Format.binary64 b = .finite s m e hm) : e ≤ 971 := by
  have hlt : (unpackExponent b).toNat < 2048 := (unpackExponent b).isLt
  have hones : unpackExponent b ≠ (-1#_) := by
    intro hones
    unfold UnpackedFloat.unpack at h
    dsimp only at h
    rw [if_pos hones] at h
    by_cases hzero : unpackMantissa b = 0#_
    · rw [if_pos hzero] at h
      cases h
    · rw [if_neg hzero] at h
      cases h
  have hne : (unpackExponent b).toNat ≠ 2047 := fun he => hones (BitVec.eq_of_toNat_eq he)
  rcases unpack_cases hones with ⟨-, _, hx⟩ | ⟨-, _, _, hx⟩ | ⟨_, _, hx⟩
  · cases hx.symm.trans h
  · cases hx.symm.trans h
    decide
  · cases hx.symm.trans h
    omega

/-- The exponent's bits of a packed number that does not overflow. -/
theorem toNat_unpackExponent_pack {s : Sign} {m : Nat} {e : Int} (hm : 0 < m) (he : e ≤ 971) :
    (unpackExponent (UnpackedFloat.pack Format.binary64 (.finite s m e hm))).toNat =
      if m.log2 = 52 then (e + 1075).toNat else 0 := by
  have hroom : ¬ 2 ^ Format.binary64.exponentBits ≤
      (e + Format.binary64.exponentBias + Format.binary64.mantissaBitsWithoutImplicit).toNat + 1 := by
    change ¬ 2048 ≤ (e + (1023 : Nat) + (52 : Nat)).toNat + 1
    omega
  unfold UnpackedFloat.pack
  simp only [if_neg hroom]
  by_cases hlog : m.log2 = 52
  · have hnormal : m.log2 + 1 = Format.binary64.mantissaBits := by
      rw [hlog]
      rfl
    rw [if_pos hnormal, if_pos hlog, unpackExponent_packComponents, BitVec.toNat_ofNat]
    change (e + (1023 : Nat) + (52 : Nat)).toNat % 2048 = (e + 1075).toNat
    omega
  · have hnormal : m.log2 + 1 ≠ Format.binary64.mantissaBits := by
      change m.log2 + 1 ≠ 53
      omega
    rw [if_neg hnormal, if_neg hlog, unpackExponent_packComponents]
    rfl

/-- A number below a bound that is not too large stays below it when it is packed. -/
theorem below_unpack_pack {a : Int} {x : UnpackedFloat} (h : Below a x) (ha : 0 ≤ a) (hmax : a ≤ 900) :
    Below a (UnpackedFloat.unpack Format.binary64 (UnpackedFloat.pack Format.binary64 x)) := by
  cases x with
  | infinity | notANumber => exact h.elim
  | zero s =>
    have hbits : unpackExponent (UnpackedFloat.pack Format.binary64 (.zero s)) = 0 :=
      unpackExponent_packComponents
    refine (below_unpack (by rw [hbits]; decide)).mono ?_
    rw [hbits]
    change (0 : Int) - 1022 ≤ a
    omega
  | finite s m e hm =>
    have hle : totalExponent m e ≤ a := h
    unfold totalExponent at hle
    have hbits := toNat_unpackExponent_pack (s := s) hm (by omega : e ≤ 971)
    refine (below_unpack (by rw [hbits]; split <;> omega)).mono ?_
    rw [hbits]
    split <;> omega

theorem isNaN_unpack_pack {x : UnpackedFloat} (h : x.isNaN = false) :
    (UnpackedFloat.unpack Format.binary64 (UnpackedFloat.pack Format.binary64 x)).isNaN = false := by
  have hinfinity (s : Sign) : (UnpackedFloat.unpack Format.binary64 (packedInfinity Format.binary64 s)).isNaN = false := by
    cases s <;> rfl
  cases x with
  | notANumber => cases h
  | infinity s => exact hinfinity s
  | zero s => cases s <;> rfl
  | finite s m e hm =>
    by_cases he : e ≤ 971
    · have hbits := toNat_unpackExponent_pack (s := s) hm he
      have hbelow := below_unpack (b := UnpackedFloat.pack Format.binary64 (.finite s m e hm))
        (by rw [hbits]; split <;> omega)
      revert hbelow
      cases UnpackedFloat.unpack Format.binary64 (UnpackedFloat.pack Format.binary64 (.finite s m e hm)) with
      | notANumber => exact fun hbelow => hbelow.elim
      | infinity | zero | finite => exact fun _ => rfl
    · have hfull : 2 ^ Format.binary64.exponentBits ≤
          (e + Format.binary64.exponentBias + Format.binary64.mantissaBitsWithoutImplicit).toNat + 1 := by
        change 2048 ≤ (e + (1023 : Nat) + (52 : Nat)).toNat + 1
        omega
      unfold UnpackedFloat.pack
      simp only [if_pos hfull]
      exact hinfinity s

theorem totalExponent_mul_le (m n : Nat) (e f : Int) :
    totalExponent (m * n) (e + f) ≤ totalExponent m e + totalExponent n f := by
  have hm := @Nat.lt_log2_self m
  have hn := @Nat.lt_log2_self n
  have hlt : m * n < 2 ^ (m.log2 + n.log2 + 1 + 1) := by
    have hpow : 2 ^ (m.log2 + n.log2 + 1 + 1) = 2 ^ (m.log2 + 1) * 2 ^ (n.log2 + 1) := by
      rw [← Nat.pow_add]
      congr 1
      omega
    rw [hpow]
    exact Nat.mul_lt_mul'' hm hn
  have hlog := log2_le_of_lt hlt
  unfold totalExponent
  omega

theorem below_mul {a b : Int} {x y : UnpackedFloat} (hx : Below a x) (hy : Below b y) (hab : 0 ≤ a + b) :
    Below (a + b + 1) (UnpackedFloat.mul Format.binary64 x y) := by
  cases x with
  | infinity | notANumber => exact hx.elim
  | zero s =>
    cases y with
    | infinity | notANumber => exact hy.elim
    | zero | finite => trivial
  | finite s m e hm =>
    cases y with
    | infinity | notANumber => exact hy.elim
    | zero => trivial
    | finite t n f hn =>
      have hm' : totalExponent m e ≤ a := hx
      have hn' : totalExponent n f ≤ b := hy
      have hmn := totalExponent_mul_le m n e f
      exact below_roundWithAccuracy _ _ (by omega) hab

theorem log2_shiftLeft_div_le {m n k l : Nat} (hn : 0 < n) (hl : m.log2 + k ≤ n.log2 + l) :
    (m <<< k / n).log2 ≤ l := by
  have hm := @Nat.lt_log2_self m
  have hn' := Nat.log2_self_le (Nat.ne_of_gt hn)
  apply log2_le_of_lt
  rw [Nat.div_lt_iff_lt_mul hn, Nat.shiftLeft_eq]
  calc
    m * 2 ^ k < 2 ^ (m.log2 + 1) * 2 ^ k := Nat.mul_lt_mul_of_pos_right hm (Nat.two_pow_pos k)
    _ = 2 ^ (m.log2 + 1 + k) := (Nat.pow_add ..).symm
    _ ≤ 2 ^ (l + 1 + n.log2) := Nat.pow_le_pow_right (by decide) (by omega)
    _ = 2 ^ (l + 1) * 2 ^ n.log2 := Nat.pow_add ..
    _ ≤ 2 ^ (l + 1) * n := Nat.mul_le_mul_left _ hn'

/-- The product of finite numbers is infinite at worst. -/
theorem isNaN_mul {x y : UnpackedFloat} (hx : x.isFinite = true) (hy : y.isFinite = true) :
    (UnpackedFloat.mul Format.binary64 x y).isNaN = false := by
  cases x with
  | infinity | notANumber => cases hx
  | zero s =>
    cases y with
    | infinity | notANumber => cases hy
    | zero | finite => rfl
  | finite s m e hm =>
    cases y with
    | infinity | notANumber => cases hy
    | zero => rfl
    | finite t n f hn =>
      rcases roundWithAccuracy_cases (s * t) (m * n) (e + f) .exact with ⟨-, hx⟩ | ⟨_, hx⟩
      · exact congrArg UnpackedFloat.isNaN hx
      · exact congrArg UnpackedFloat.isNaN hx

theorem isFinite_neg_unpack {b : BitVec Format.binary64.numBits}
    (h : (UnpackedFloat.unpack Format.binary64 b).isFinite = true) :
    (UnpackedFloat.unpack Format.binary64
      (UnpackedFloat.pack Format.binary64 (UnpackedFloat.unpack Format.binary64 b).neg)).isFinite = true := by
  cases hx : UnpackedFloat.unpack Format.binary64 b with
  | infinity | notANumber =>
    rw [hx] at h
    cases h
  | zero s => cases s <;> rfl
  | finite s m e hm =>
    have he := exponent_le_of_unpack hx
    have hneg : (UnpackedFloat.finite s m e hm).neg = .finite (-s) m e hm := rfl
    have hbits := toNat_unpackExponent_pack (s := -s) hm he
    rw [hneg]
    exact (below_unpack (by rw [hbits]; split <;> omega)).isFinite

/-- A quotient before it is rounded. Where it has no bits at all its exponent is the smallest one. -/
theorem totalExponent_divCore_le {m n : Nat} (e f : Int) (hn : 0 < n) :
    totalExponent (divCore Format.binary64 m e n f).1 (divCore Format.binary64 m e n f).2.1 ≤
      max (totalExponent m e - totalExponent n f + 1) (-1073) := by
  simp only [divCore]
  generalize htarget : Format.binary64.targetExponent (totalExponent m e - totalExponent n f) = target
  rw [targetExponent_binary64] at htarget
  generalize hk : (e - f - min (e - f) target).toNat = k
  have hlog : (m <<< k / n).log2 ≤ m.log2 + k - n.log2 := log2_shiftLeft_div_le hn (by omega)
  unfold totalExponent at *
  omega

theorem below_div {a b : Int} {x y : UnpackedFloat} (hx : Below a x) (hy : AtLeast b y) (hab : b ≤ a + 1) :
    Below (a - b + 2) (UnpackedFloat.div Format.binary64 x y) := by
  cases y with
  | infinity | notANumber | zero => exact hy.elim
  | finite s n f hn =>
    cases x with
    | infinity | notANumber => exact hx.elim
    | zero => trivial
    | finite t m e hm =>
      have hm' : totalExponent m e ≤ a := hx
      have hn' : b ≤ totalExponent n f := hy
      have hcore := totalExponent_divCore_le (m := m) e f hn
      have hround := below_roundWithAccuracy (t / s) (divCore Format.binary64 m e n f).2.2
        (Int.le_trans hcore (by omega : _ ≤ a - b + 1)) (by omega)
      exact hround.mono (by omega)

/-- Rounding a number that may have few bits. -/
theorem below_round {m : Nat} {e a : Int} (s : Sign) (h : totalExponent m e ≤ a) (ha : 0 ≤ a) :
    Below (a + 1) (round Format.binary64 s m e) := by
  -- a number with few bits is first given more of them, which does not move it
  have hshift (k : Nat) : totalExponent (m <<< k) (e - k) ≤ max (totalExponent m e) (1 + e) := by
    have hlog : (m <<< k / 1).log2 ≤ m.log2 + k := log2_shiftLeft_div_le Nat.one_pos (by simp)
    rw [Nat.div_one] at hlog
    unfold totalExponent
    omega
  have he : 1 + e ≤ a := by
    unfold totalExponent at h
    omega
  exact below_roundWithAccuracy _ _ (Int.le_trans (hshift _) (by omega)) ha

end PaddleLink.Decimal
