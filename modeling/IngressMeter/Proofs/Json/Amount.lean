import IngressMeter.Json.Decode
import IngressMeter.Proofs.Decimal.Binary
import IngressMeter.Proofs.Decimal.Reading

/-!
Amounts that are whole numbers: up to 2⁵³ there is a floating-point number for each of them, and its
digits read as that one.
-/

namespace IngressMeter.Json

theorem le_digitsValue (digits : List Char) (start : Nat) :
    start ≤ Decimal.digitsValue digits start := by
  induction digits generalizing start with
  | nil => exact Nat.le_refl _
  | cons digit digits ih =>
      have next := ih (start * 10 + Decimal.digitValue digit)
      rw [Decimal.digitsValue, List.foldl_cons]
      exact Nat.le_trans (by omega) next

theorem Number.takeDigits_eq {digits : List Char} {start : Nat}
    (fits : Decimal.digitsValue digits start < powerOfTwo 64) :
    takeDigits start digits = (Decimal.digitsValue digits start, []) := by
  induction digits generalizing start with
  | nil => rfl
  | cons digit digits ih =>
      have next := le_digitsValue digits (start * 10 + Decimal.digitValue digit)
      rw [takeDigits, if_pos (Nat.lt_of_le_of_lt next fits)]
      exact ih fits

theorem Number.significand_natDigits {n : Nat} (fits : n < powerOfTwo 64) :
    significand ⟨false, Decimal.natDigits n, none, none⟩ = (n, 0) := by
  have value := Decimal.digitsValue_natDigits n
  have taken : takeDigits 0 (Decimal.natDigits n) = (n, []) := by
    rw [takeDigits_eq (by rwa [value]), value]
  simp [significand, taken, takeDigits]

theorem Number.scale?_zero {n : Nat} (le : n ≤ 2 ^ 53) :
    scale? n 0 = some (UInt64.ofNat n).toFloat := by
  have reduced : reduce 4 (UInt64.ofNat n).toFloat 0 = ((UInt64.ofNat n).toFloat, 0) := by
    simp [reduce]
  have scaled : (UInt64.ofNat n).toFloat * tens (0 : Int).toNat = (UInt64.ofNat n).toFloat :=
    Binary.toFloat_mul_tens_zero le
  have finite := Binary.isInf_toFloat le
  simp only [scale?, reduced, scaled, finite]
  split <;> rfl

theorem toFloat?_ofNat {n : Nat} (le : n ≤ 2 ^ 53) :
    toFloat? (.ofNat n) = some (UInt64.ofNat n).toFloat := by
  have fits : n < powerOfTwo 64 := Nat.lt_of_le_of_lt le (by decide)
  rw [ofNat, toFloat?, Number.toFloat?, Number.significand_natDigits fits]
  simp [Number.exponentValue, Number.scale?_zero le]

end IngressMeter.Json
