import PaddleLink.Json.Token
import PaddleLink.Proofs.Decimal.Finite

namespace PaddleLink.Json

def Number.InRange : Number → Prop
  | .integer i => -2 ^ 63 ≤ i ∧ i < 2 ^ 64
  | .float x => x.isFinite = true

theorem absorb_lt {significand : Nat} (h : significand < 2 ^ 64) (ds : List Nat) :
    (absorb significand ds).1 < 2 ^ 64 := by
  induction ds generalizing significand with
  | nil => exact h
  | cons d ds ih =>
    unfold absorb
    split
    · rename_i hd
      exact ih hd
    · exact h

theorem isFinite_signed {x : Float} (negative : Bool) (h : x.isFinite = true) :
    (signed negative x).isFinite = true := by
  cases negative with
  | false => exact h
  | true => exact Decimal.isFinite_neg h

theorem inRange_finish {negative : Bool} {significand : Nat} {exponent : Int} {n : Number}
    (hs : significand < 2 ^ 64) (h : floatValue.finish negative significand exponent = .ok n) : n.InRange := by
  unfold floatValue.finish at h
  split at h
  · rename_i x hx
    cases h
    exact isFinite_signed negative (Decimal.isFinite_of_toFloat? hs hx)
  · cases h

theorem inRange_floatValue {negative : Bool} {significand : Nat} {scale : Int}
    {exponent : Option (Bool × List Nat)} {n : Number} (hs : significand < 2 ^ 64)
    (h : floatValue negative significand scale exponent = .ok n) : n.InRange := by
  have hzero : (0 : Float).isFinite = true := (Decimal.below_ofNat (n := 0) (by decide)).isFinite
  unfold floatValue at h
  split at h
  · exact inRange_finish hs h
  · split at h
    · exact inRange_finish hs h
    · split at h
      · cases h
      · cases h
        exact isFinite_signed negative hzero

/-- The value of a number's text, if it has one, can be handed on as it is. -/
theorem inRange_value {numeral : Numeral} {n : Number} (h : numeral.value = .ok n) : n.InRange := by
  have hwhole := absorb_lt (Nat.two_pow_pos 64) numeral.whole
  unfold Numeral.value at h
  simp only at h
  split at h
  · split at h
    · exact inRange_floatValue hwhole h
    · split at h
      · cases h
        exact ⟨by omega, by omega⟩
      · split at h
        · cases h
          exact Decimal.isFinite_neg (Decimal.below_ofNat hwhole).isFinite
        · cases h
          exact ⟨by omega, by omega⟩
  · exact inRange_floatValue (absorb_lt hwhole _) h

end PaddleLink.Json
