import IngressMeter.Json.Number
import Mathlib

/-!
Floating-point numbers with a full mantissa: they are taken apart as they were put together, and
rounding leaves them as they are.
-/

namespace IngressMeter.Binary

open Float.Model Float.Model.UnpackedFloat

structure IsNormal (mantissa : Nat) (exponent : Int) : Prop where
  full : 2 ^ 52 ≤ mantissa ∧ mantissa < 2 ^ 53
  inReach : -1000 ≤ exponent ∧ exponent ≤ 971

section Rounding

variable {mantissa : Nat} {exponent : Int}

theorem IsNormal.ne_zero (normal : IsNormal mantissa exponent) : mantissa ≠ 0 := by
  have full := normal.full.1
  omega

theorem IsNormal.log2 (normal : IsNormal mantissa exponent) : mantissa.log2 = 52 :=
  (Nat.log2_eq_iff normal.ne_zero).mpr normal.full

theorem IsNormal.targetExponent (normal : IsNormal mantissa exponent) :
    Format.binary64.targetExponent (totalExponent mantissa exponent) = exponent := by
  have inReach := normal.inReach
  simp only [Format.targetExponent, totalExponent, normal.log2, Format.minExponent,
    Format.mantissaBits]
  omega

theorem log2_mul_two_pow (nonzero : mantissa ≠ 0) (shift : Nat) :
    (mantissa * 2 ^ shift).log2 = mantissa.log2 + shift := by
  have positive := Nat.two_pow_pos shift
  rw [Nat.log2_eq_iff (Nat.mul_ne_zero nonzero (Nat.ne_of_gt positive))]
  obtain ⟨lower, upper⟩ := (Nat.log2_eq_iff nonzero).mp rfl
  constructor
  · rw [Nat.pow_add]
    exact Nat.mul_le_mul_right _ lower
  · rw [Nat.add_right_comm, Nat.pow_add]
    exact Nat.mul_lt_mul_of_pos_right upper positive

theorem shiftRight_exact (mantissa shift : Nat) :
    (⟨mantissa * 2 ^ shift, false, false⟩ : ExtendedMantissa) >>> shift = ⟨mantissa, false, false⟩ := by
  change shift.repeat ExtendedMantissa.shiftRightOne _ = _
  induction shift generalizing mantissa with
  | zero => simp [Nat.repeat]
  | succ shift ih =>
      have once := ih (mantissa * 2)
      rw [Nat.mul_assoc, ← Nat.pow_succ'] at once
      rw [Nat.repeat, once]
      simp [ExtendedMantissa.shiftRightOne]

theorem IsNormal.shiftToTargetExponent (normal : IsNormal mantissa exponent) (shift : Nat) :
    shiftToTargetExponent Format.binary64 (mantissa * 2 ^ shift) (exponent - shift) .exact =
      (⟨mantissa, false, false⟩, exponent) := by
  have same : totalExponent (mantissa * 2 ^ shift) (exponent - shift) =
      totalExponent mantissa exponent := by
    rw [totalExponent, totalExponent, log2_mul_two_pow normal.ne_zero]
    omega
  have amount : (exponent - (exponent - shift)).toNat = shift := by omega
  have back : exponent - shift + shift = exponent := by omega
  rw [UnpackedFloat.shiftToTargetExponent, same, normal.targetExponent, shiftToExponent, amount, back]
  exact congrArg (·, exponent) (shiftRight_exact mantissa shift)

theorem IsNormal.roundWithAccuracy (normal : IsNormal mantissa exponent) (sign : Sign) (shift : Nat) :
    roundWithAccuracy Format.binary64 sign (mantissa * 2 ^ shift) (exponent - shift) .exact =
      .finite sign mantissa exponent (Nat.pos_of_ne_zero normal.ne_zero) := by
  have again := normal.shiftToTargetExponent 0
  rw [Nat.pow_zero, Nat.mul_one, Int.natCast_zero, Int.sub_zero] at again
  have rounded : ExtendedMantissa.roundedMantissa ⟨mantissa, false, false⟩ = mantissa := rfl
  simp only [UnpackedFloat.roundWithAccuracy, normal.shiftToTargetExponent, rounded, again,
    dif_neg normal.ne_zero]

end Rounding

/-! Packing. -/

theorem toNat_field {field : Nat} (below : field < 2047) : (BitVec.ofNat 11 field).toNat = field := by
  rw [BitVec.toNat_ofNat, Nat.mod_eq_of_lt]
  omega

theorem field_ne_largest {field : Nat} (below : field < 2047) : BitVec.ofNat 11 field ≠ -1#11 := by
  intro same
  rw [← BitVec.toNat_inj, toNat_field below] at same
  have largest : (-1#11).toNat = 2047 := by decide
  omega

theorem unpack_packComponents {spec : Format} (sign : Sign) {exponent : BitVec spec.exponentBits}
    (notLargest : exponent ≠ -1#_) (notZero : exponent ≠ 0#_)
    (mantissa : BitVec spec.mantissaBitsWithoutImplicit) :
    UnpackedFloat.unpack spec (packComponents spec sign exponent mantissa) =
      .finite sign (1#1 ++ mantissa).toNat
        (exponent.toNat - (spec.exponentBias + spec.mantissaBitsWithoutImplicit)) (by simp) := by
  simp only [UnpackedFloat.unpack, unpackMantissa_packComponents, unpackExponent_packComponents,
    unpackSign_packComponents, Sign.ofBitVec_toBitVec, if_neg notLargest, if_neg notZero]

section Packing

variable {mantissa : Nat} {exponent : Int} (normal : IsNormal mantissa exponent)

include normal

theorem IsNormal.toNat_mantissa : (1#1 ++ BitVec.ofNat 52 mantissa).toNat = mantissa := by
  have full := normal.full
  -- The leading bit is not packed, and comes back in front of the others.
  have below := (BitVec.ofNat 52 mantissa).isLt
  rw [BitVec.toNat_append, ← Nat.shiftLeft_add_eq_or_of_lt below, BitVec.toNat_ofNat]
  change 1 <<< 52 + mantissa % 2 ^ 52 = mantissa
  omega

theorem IsNormal.pack (sign : Sign) (positive : 0 < mantissa) {field : Nat}
    (isField : (field : Int) = exponent + 1075) :
    UnpackedFloat.pack Format.binary64 (.finite sign mantissa exponent positive) =
      packComponents Format.binary64 sign (BitVec.ofNat _ field) (BitVec.ofNat _ mantissa) := by
  have inReach := normal.inReach
  have same : (exponent + Format.binary64.exponentBias +
      Format.binary64.mantissaBitsWithoutImplicit).toNat = field := by
    simp only [Format.exponentBias]
    omega
  have finite : ¬ 2 ^ 11 ≤ field + 1 := by omega
  simp only [UnpackedFloat.pack, same, normal.log2, if_neg finite]
  rfl

theorem IsNormal.unpack_pack (sign : Sign) (positive : 0 < mantissa) :
    (Float.Model.pack (.finite sign mantissa exponent positive)).unpack =
      .finite sign mantissa exponent positive := by
  have inReach := normal.inReach
  obtain ⟨field, isField⟩ : ∃ field : Nat, (field : Int) = exponent + 1075 :=
    ⟨(exponent + 1075).toNat, by omega⟩
  have below : field < 2047 := by omega
  have notZero : BitVec.ofNat 11 field ≠ 0#11 := by
    intro same
    rw [← BitVec.toNat_inj, toNat_field below, BitVec.toNat_zero] at same
    omega
  have unpacked := @unpack_packComponents Format.binary64 sign _ (field_ne_largest below) notZero
    (BitVec.ofNat _ mantissa)
  have isExponent : (field : Int) - (Format.binary64.exponentBias +
      Format.binary64.mantissaBitsWithoutImplicit) = exponent := by
    simp only [Format.exponentBias]
    omega
  change UnpackedFloat.unpack Format.binary64 (UnpackedFloat.pack Format.binary64 _) = _
  rw [normal.pack sign positive isField, unpacked]
  simp only [toNat_field below, normal.toNat_mantissa, isExponent]

end Packing

/-! Whole numbers below 2⁵³. -/

section Whole

variable {n : Nat} (positive : 0 < n) (below : n < 2 ^ 53)

include positive

theorem exponent_le : n < 2 ^ 53 → n.log2 ≤ 52 := by
  intro below
  have lt := (Nat.log2_lt (Nat.ne_of_gt positive)).mpr below
  omega

theorem mantissa_pos : 0 < n * 2 ^ (52 - n.log2) := Nat.mul_pos positive (Nat.two_pow_pos _)

include below

theorem isNormal_whole : IsNormal (n * 2 ^ (52 - n.log2)) (n.log2 - 52) where
  full := by
    have nonzero := Nat.ne_of_gt (mantissa_pos positive)
    rw [← Nat.log2_eq_iff nonzero, log2_mul_two_pow (Nat.ne_of_gt positive)]
    have le := exponent_le positive below
    omega
  inReach := by
    have le := exponent_le positive below
    omega

theorem toFloat_ofNat : (UInt64.ofNat n).toFloat =
    .ofModel (.pack (.finite .positive (n * 2 ^ (52 - n.log2)) (n.log2 - 52)
      (mantissa_pos positive))) := by
  have le := exponent_le positive below
  have whole : (UInt64.ofNat n).toNat = n := by
    rw [UInt64.toNat_ofNat']
    omega
  have above : compare (n : Int) 0 = .gt := by
    rw [Int.compare_eq_gt]
    omega
  have target : Format.binary64.targetExponent (totalExponent n 0) = n.log2 - 52 := by
    simp only [Format.targetExponent, totalExponent, Format.minExponent, Format.mantissaBits]
    omega
  have shift : (0 - ((n.log2 : Int) - 52)).toNat = 52 - n.log2 := by omega
  have exponent : (0 : Int) - (52 - n.log2 : Nat) = n.log2 - 52 := by omega
  have rounded := (isNormal_whole positive below).roundWithAccuracy .positive 0
  rw [Nat.pow_zero, Nat.mul_one, Int.natCast_zero, Int.sub_zero] at rounded
  rw [UInt64.toFloat, Float.Model.ofUInt64, UnpackedFloat.ofUInt64, whole, UnpackedFloat.ofNat,
    UnpackedFloat.ofInt, UnpackedFloat.normalize, above]
  simp only [UnpackedFloat.round, Int.toNat_natCast, target, decreaseExponent, shift, exponent,
    Nat.shiftLeft_eq, rounded]

theorem unpack_toFloat : (UInt64.ofNat n).toFloat.toModel.unpack =
    .finite .positive (n * 2 ^ (52 - n.log2)) (n.log2 - 52) (mantissa_pos positive) := by
  rw [toFloat_ofNat positive below]
  exact (isNormal_whole positive below).unpack_pack .positive (mantissa_pos positive)

theorem toFloat_mul_one :
    (UInt64.ofNat n).toFloat * (UInt64.ofNat 1).toFloat = (UInt64.ofNat n).toFloat := by
  have one := unpack_toFloat (n := 1) (by decide) (by decide)
  have shift : (1 : Nat).log2 = 0 := by decide
  have rounded := (isNormal_whole positive below).roundWithAccuracy .positive 52
  change Float.ofModel (.pack (UnpackedFloat.mul Format.binary64 (UInt64.ofNat n).toFloat.toModel.unpack
    (UInt64.ofNat 1).toFloat.toModel.unpack)) = _
  rw [unpack_toFloat positive below, one, UnpackedFloat.mul, shift, toFloat_ofNat positive below]
  have signs : Sign.positive * Sign.positive = Sign.positive := rfl
  have exponents : (n.log2 : Int) - 52 + ((0 : Nat) - 52) = n.log2 - 52 - (52 : Nat) := by omega
  rw [signs, exponents]
  exact congrArg (fun number => Float.ofModel (.pack number)) (by simpa using rounded)

end Whole

/-! Quotients. -/

def IsAmount : UnpackedFloat → Prop
  | .zero _ | .finite .positive _ _ _ => True
  | _ => False

theorem isAmount_unpack {exponent : BitVec 11} (notLargest : exponent ≠ -1#11)
    (mantissa : BitVec 52) : IsAmount (UnpackedFloat.unpack Format.binary64
      (packComponents Format.binary64 .positive exponent mantissa)) := by
  simp only [UnpackedFloat.unpack, unpackMantissa_packComponents, unpackExponent_packComponents,
    unpackSign_packComponents, Sign.ofBitVec_toBitVec, if_neg notLargest]
  split
  · split <;> trivial
  · trivial

inductive IsModest : UnpackedFloat → Prop
  | zero : IsModest (.zero .positive)
  | finite {mantissa : Nat} {exponent : Int} (positive : 0 < mantissa) : exponent ≤ 900 →
      IsModest (.finite .positive mantissa exponent positive)

theorem isAmount_unpack_pack {mantissa : Nat} {exponent : Int} (positive : 0 < mantissa)
    (inReach : exponent ≤ 971) :
    IsAmount (Float.Model.pack (.finite .positive mantissa exponent positive)).unpack := by
  change IsAmount (UnpackedFloat.unpack Format.binary64 (UnpackedFloat.pack Format.binary64 _))
  obtain ⟨field, isField⟩ : ∃ field, field = (exponent + Format.binary64.exponentBias +
    Format.binary64.mantissaBitsWithoutImplicit).toNat := ⟨_, rfl⟩
  have below : field < 2047 := by
    simp only [isField, Format.exponentBias]
    omega
  have finite : ¬ 2 ^ 11 ≤ field + 1 := by omega
  rw [UnpackedFloat.pack]
  simp only [← isField, if_neg finite]
  split
  · exact isAmount_unpack (field_ne_largest below) _
  · exact isAmount_unpack (by decide) _

theorem IsModest.isAmount {number : UnpackedFloat} (modest : IsModest number) :
    IsAmount (Float.Model.pack number).unpack := by
  cases modest with
  | zero => exact isAmount_unpack (by decide) 0
  | finite positive le => exact isAmount_unpack_pack positive (by omega)

theorem mantissa_shiftRight_le (shifted : ExtendedMantissa) (shift : Nat) :
    (shifted >>> shift).mantissa ≤ shifted.mantissa := by
  change (shift.repeat ExtendedMantissa.shiftRightOne shifted).mantissa ≤ _
  induction shift with
  | zero => exact Nat.le_refl _
  | succ shift ih =>
      rw [Nat.repeat]
      exact Nat.le_trans (Nat.div_le_self _ 2) ih

theorem mantissa_ofMantissaAndAccuracy (mantissa : Nat) (accuracy : Accuracy) :
    (ExtendedMantissa.ofMantissaAndAccuracy mantissa accuracy).mantissa = mantissa := by
  unfold ExtendedMantissa.ofMantissaAndAccuracy
  split <;> rfl

theorem mantissa_shiftToTargetExponent_le (mantissa : Nat) (exponent : Int) (accuracy : Accuracy) :
    (shiftToTargetExponent Format.binary64 mantissa exponent accuracy).1.mantissa ≤ mantissa := by
  simp only [UnpackedFloat.shiftToTargetExponent, shiftToExponent]
  have le := mantissa_shiftRight_le (.ofMantissaAndAccuracy mantissa accuracy)
  simp only [mantissa_ofMantissaAndAccuracy] at le
  exact le _

theorem exponent_shiftToTargetExponent_le {mantissa : Nat} {exponent bound : Int}
    (small : mantissa.log2 + exponent ≤ bound) (inReach : 0 ≤ bound) (accuracy : Accuracy) :
    (shiftToTargetExponent Format.binary64 mantissa exponent accuracy).2 ≤ bound := by
  simp only [UnpackedFloat.shiftToTargetExponent, shiftToExponent, Format.targetExponent,
    totalExponent, Format.minExponent, Format.mantissaBits]
  omega

theorem roundedMantissa_le (shifted : ExtendedMantissa) :
    shifted.roundedMantissa ≤ shifted.mantissa + 1 := by
  rw [ExtendedMantissa.roundedMantissa]
  unfold Accuracy.roundToNearestEven
  split <;> omega

theorem log2_le_of_lt {n bound : Nat} (below : n < 2 ^ (bound + 1)) : n.log2 ≤ bound := by
  by_cases zero : n = 0
  · simp [zero]
  · have lt := (Nat.log2_lt zero).mpr below
    omega

theorem isModest_roundWithAccuracy {mantissa : Nat} {exponent : Int} (small : mantissa < 2 ^ 200)
    (low : exponent ≤ 200) (accuracy : Accuracy) :
    IsModest (roundWithAccuracy Format.binary64 .positive mantissa exponent accuracy) := by
  have firstMantissa := mantissa_shiftToTargetExponent_le mantissa exponent accuracy
  have firstLow : (shiftToTargetExponent Format.binary64 mantissa exponent accuracy).2 ≤ 400 := by
    have log2 : mantissa.log2 ≤ 199 := log2_le_of_lt small
    exact exponent_shiftToTargetExponent_le (by omega) (by omega) accuracy
  simp only [roundWithAccuracy]
  generalize shiftToTargetExponent Format.binary64 mantissa exponent accuracy = first at *
  -- Rounding up may take one more bit, which the second shift drops.
  have lastLow : (shiftToTargetExponent Format.binary64 first.1.roundedMantissa first.2 .exact).2 ≤
      900 := by
    have rounded := roundedMantissa_le first.1
    have log2 : first.1.roundedMantissa.log2 ≤ 200 := log2_le_of_lt (by omega)
    exact exponent_shiftToTargetExponent_le (by omega) (by omega) .exact
  split
  · exact .zero
  · exact .finite _ lastLow

theorem IsNormal.isModest_div {mantissa mantissa' : Nat} {exponent exponent' : Int}
    (normal : IsNormal mantissa exponent) (normal' : IsNormal mantissa' exponent')
    (near : exponent - exponent' ≤ 100) (positive : 0 < mantissa) (positive' : 0 < mantissa') :
    IsModest (UnpackedFloat.div Format.binary64 (.finite .positive mantissa exponent positive)
      (.finite .positive mantissa' exponent' positive')) := by
  have full := normal.full
  have inReach : Format.binary64.targetExponent
      (totalExponent mantissa exponent - totalExponent mantissa' exponent') ≤ 100 ∧
      exponent - exponent' - 53 ≤ Format.binary64.targetExponent
        (totalExponent mantissa exponent - totalExponent mantissa' exponent') := by
    simp only [Format.targetExponent, totalExponent, normal.log2, normal'.log2, Format.minExponent,
      Format.mantissaBits]
    omega
  -- So the dividend is shifted up by no more bits than a mantissa has.
  simp only [UnpackedFloat.div, divCore]
  generalize Format.binary64.targetExponent _ = target at *
  refine isModest_roundWithAccuracy ?_ (by omega) _
  have shift_le : (exponent - exponent' - min (exponent - exponent') target).toNat ≤ 53 := by omega
  generalize (exponent - exponent' - min (exponent - exponent') target).toNat = shift at *
  calc mantissa <<< shift / mantissa' ≤ mantissa <<< shift := Nat.div_le_self _ _
    _ = mantissa * 2 ^ shift := Nat.shiftLeft_eq mantissa shift
    _ ≤ mantissa * 2 ^ 53 := Nat.mul_le_mul_left _ (Nat.pow_le_pow_right (by decide) shift_le)
    _ < 2 ^ 200 := by omega

theorem isAmount_div {n divisor : Nat} (positive : 0 < n) (below : n < 2 ^ 53)
    (positive' : 0 < divisor) (below' : divisor < 2 ^ 53) :
    IsAmount ((UInt64.ofNat n).toFloat / (UInt64.ofNat divisor).toFloat).toModel.unpack := by
  change IsAmount (Float.Model.pack (UnpackedFloat.div Format.binary64
    (UInt64.ofNat n).toFloat.toModel.unpack (UInt64.ofNat divisor).toFloat.toModel.unpack)).unpack
  rw [unpack_toFloat positive below, unpack_toFloat positive' below']
  have normal := isNormal_whole positive below
  refine (normal.isModest_div (isNormal_whole positive' below') ?_ _ _).isAmount
  have le := exponent_le positive below
  omega

theorem IsAmount.isFinite {number : UnpackedFloat} (amount : IsAmount number) :
    number.isFinite = true := by
  cases number with
  | zero => rfl
  | finite => rfl
  | infinity => exact amount.elim
  | notANumber => exact amount.elim

theorem IsAmount.not_lt_zero {number : UnpackedFloat} (amount : IsAmount number) (sign : Sign) :
    number.lt (.zero sign) = false := by
  cases number with
  | zero => rfl
  | finite own =>
      cases own with
      | positive => rfl
      | negative => exact amount.elim
  | infinity => exact amount.elim
  | notANumber => exact amount.elim

/-! Whole numbers up to 2⁵³, which are zero, a power of two or in between. -/

section Bounded

variable {n : Nat} (le : n ≤ 2 ^ 53)

include le

theorem toFloat_mul_tens_zero :
    (UInt64.ofNat n).toFloat * Json.Number.tens 0 = (UInt64.ofNat n).toFloat := by
  have isOne : Json.Number.tens 0 = (UInt64.ofNat 1).toFloat := by decide +kernel
  rw [isOne]
  obtain rfl | rfl | ⟨positive, below⟩ : n = 0 ∨ n = 2 ^ 53 ∨ 0 < n ∧ n < 2 ^ 53 := by omega
  · decide +kernel
  · decide +kernel
  · exact toFloat_mul_one positive below

theorem isInf_toFloat : (UInt64.ofNat n).toFloat.isInf = false := by
  obtain rfl | rfl | ⟨positive, below⟩ : n = 0 ∨ n = 2 ^ 53 ∨ 0 < n ∧ n < 2 ^ 53 := by omega
  · decide +kernel
  · decide +kernel
  · rw [Float.isInf, Float.Model.isInf, unpack_toFloat positive below]
    rfl

theorem measurable_div :
    ¬ (UInt64.ofNat n).toFloat / (UInt64.ofNat 1000000).toFloat < 0 ∧
      ((UInt64.ofNat n).toFloat / (UInt64.ofNat 1000000).toFloat).isFinite = true := by
  obtain rfl | rfl | ⟨positive, below⟩ : n = 0 ∨ n = 2 ^ 53 ∨ 0 < n ∧ n < 2 ^ 53 := by omega
  · decide +kernel
  · decide +kernel
  · have amount := @isAmount_div n 1000000 positive below (by decide) (by decide)
    have zero : (0 : Float).toModel.unpack = .zero .positive := by rfl
    have notLess := amount.not_lt_zero .positive
    rw [← zero, ← Bool.not_eq_true] at notLess
    exact ⟨fun less => notLess (of_decide_eq_true less), amount.isFinite⟩

end Bounded

end IngressMeter.Binary
