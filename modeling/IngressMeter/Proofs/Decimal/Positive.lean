import IngressMeter.Proofs.Decimal.Binary
import IngressMeter.Proofs.Decimal.Order
import Mathlib

/-!
Arithmetic on positive floating-point numbers. Every operation keeps the full mantissa of its
operands, so it is the exponents that tell between which powers of two a result lies. In particular
the product of two numbers that are at least one is at least one, though it may be infinite.
-/

namespace IngressMeter.Binary

open Float.Model Float.Model.UnpackedFloat

inductive Lies (low high : Int) : UnpackedFloat → Prop
  | finite {mantissa : Nat} {exponent : Int} (positive : 0 < mantissa)
      (full : 2 ^ 52 ≤ mantissa ∧ mantissa < 2 ^ 53) (inReach : low ≤ exponent ∧ exponent ≤ high) :
      Lies low high (.finite .positive mantissa exponent positive)

def IsNonneg : UnpackedFloat → Prop
  | .zero _ | .infinity .positive | .finite .positive _ _ _ => True
  | _ => False

def IsAtLeastOne : UnpackedFloat → Prop
  | .infinity .positive => True
  | .finite .positive mantissa exponent _ => (2 ^ 52 ≤ mantissa ∧ mantissa < 2 ^ 53) ∧ -52 ≤ exponent
  | _ => False

section Rounding

theorem roundDiv_le (numerator denominator : Nat) :
    roundDiv numerator denominator ≤ numerator / denominator + 1 := by
  rw [roundDiv]
  split
  · omega
  · split <;> omega

theorem mantissa_shiftRight (shifted : ExtendedMantissa) (shift : Nat) :
    (shifted >>> shift).mantissa = shifted.mantissa / 2 ^ shift := by
  change (shift.repeat ExtendedMantissa.shiftRightOne shifted).mantissa = _
  induction shift with
  | zero => simp [Nat.repeat]
  | succ shift ih =>
      have once : (Nat.repeat ExtendedMantissa.shiftRightOne (shift + 1) shifted).mantissa =
          (Nat.repeat ExtendedMantissa.shiftRightOne shift shifted).mantissa / 2 := rfl
      rw [once, ih, Nat.div_div_eq_div_mul, Nat.pow_succ]

theorem le_roundedMantissa (shifted : ExtendedMantissa) :
    shifted.mantissa ≤ shifted.roundedMantissa := by
  rw [ExtendedMantissa.roundedMantissa]
  unfold Accuracy.roundToNearestEven
  split <;> omega

variable {mantissa : Nat} {exponent : Int}

theorem shiftToTargetExponent_long (long : 52 ≤ mantissa.log2)
    (inReach : -1074 ≤ mantissa.log2 - 52 + exponent) (accuracy : Accuracy) :
    let shifted := shiftToTargetExponent Format.binary64 mantissa exponent accuracy
    (2 ^ 52 ≤ shifted.1.mantissa ∧ shifted.1.mantissa < 2 ^ 53) ∧
      shifted.2 = mantissa.log2 - 52 + exponent := by
  have nonzero : mantissa ≠ 0 := by
    rintro rfl
    simp at long
  obtain ⟨shift, isShift⟩ : ∃ shift, mantissa.log2 = 52 + shift := Nat.exists_eq_add_of_le long
  have target : Format.binary64.targetExponent (totalExponent mantissa exponent) =
      exponent + shift := by
    simp only [Format.targetExponent, totalExponent, Format.minExponent, Format.mantissaBits]
    omega
  have amount : (exponent + (shift : Int) - exponent).toNat = shift := by omega
  simp only [UnpackedFloat.shiftToTargetExponent, shiftToExponent, target, amount,
    mantissa_shiftRight, mantissa_ofMantissaAndAccuracy]
  obtain ⟨lower, upper⟩ := (Nat.log2_eq_iff nonzero).mp isShift
  refine ⟨⟨?_, ?_⟩, by omega⟩
  · rw [Nat.le_div_iff_mul_le (Nat.two_pow_pos shift), ← Nat.pow_add]
    exact lower
  · rw [Nat.div_lt_iff_lt_mul (Nat.two_pow_pos shift), ← Nat.pow_add]
    rwa [Nat.add_right_comm] at upper

/-- Rounding may carry once, which moves the number to the next power of two. -/
theorem lies_roundWithAccuracy {low high : Int} (long : 52 ≤ mantissa.log2) (least : -1074 ≤ low)
    (inReach : low ≤ mantissa.log2 - 52 + exponent ∧ mantissa.log2 - 52 + exponent < high)
    (accuracy : Accuracy) :
    Lies low high (roundWithAccuracy Format.binary64 .positive mantissa exponent accuracy) := by
  obtain ⟨full, isFirst⟩ :=
    shiftToTargetExponent_long long (Int.le_trans least inReach.1) accuracy
  simp only [roundWithAccuracy]
  generalize shiftToTargetExponent Format.binary64 mantissa exponent accuracy = first at *
  have atLeast := le_roundedMantissa first.1
  have atMost := roundedMantissa_le first.1
  generalize first.1.roundedMantissa = rounded at *
  have nonzero : rounded ≠ 0 := by omega
  have longToo : 52 ≤ rounded.log2 := (Nat.le_log2 nonzero).mpr (by omega)
  have below : rounded.log2 < 54 := (Nat.log2_lt nonzero).mpr (by omega)
  obtain ⟨fullToo, isSecond⟩ := @shiftToTargetExponent_long rounded first.2 longToo (by omega) .exact
  generalize shiftToTargetExponent Format.binary64 rounded first.2 .exact = second at *
  rw [dif_neg (by omega)]
  exact .finite _ fullToo (by omega)

theorem isNonneg_roundWithAccuracy (mantissa : Nat) (exponent : Int) (accuracy : Accuracy) :
    IsNonneg (roundWithAccuracy Format.binary64 .positive mantissa exponent accuracy) := by
  simp only [roundWithAccuracy]
  split <;> trivial

end Rounding

section Operations

variable {low high low' high' : Int} {a b : UnpackedFloat}

theorem lies_mul (lies : Lies low high a) (lies' : Lies low' high' b)
    (least : -1126 ≤ low + low') :
    Lies (low + low' + 52) (high + high' + 54) (UnpackedFloat.mul Format.binary64 a b) := by
  obtain ⟨positive, full, inReach⟩ := lies
  obtain ⟨positive', full', inReach'⟩ := lies'
  rename_i mantissa exponent mantissa' exponent'
  have product : 2 ^ 52 * 2 ^ 52 ≤ mantissa * mantissa' ∧ mantissa * mantissa' < 2 ^ 53 * 2 ^ 53 :=
    ⟨Nat.mul_le_mul full.1 full'.1, Nat.mul_lt_mul'' full.2 full'.2⟩
  have nonzero : mantissa * mantissa' ≠ 0 := by omega
  have long : 104 ≤ (mantissa * mantissa').log2 := (Nat.le_log2 nonzero).mpr (by omega)
  have below : (mantissa * mantissa').log2 < 106 := (Nat.log2_lt nonzero).mpr (by omega)
  exact lies_roundWithAccuracy (by omega) (by omega) (by omega) .exact

theorem lies_div (lies : Lies low high a) (lies' : Lies low' high' b)
    (least : -1021 ≤ low - high') :
    Lies (low - high' - 53) (high - low' - 51) (UnpackedFloat.div Format.binary64 a b) := by
  obtain ⟨positive, full, inReach⟩ := lies
  obtain ⟨positive', full', inReach'⟩ := lies'
  rename_i mantissa exponent mantissa' exponent'
  have isFull := (Nat.log2_eq_iff (Nat.ne_of_gt positive)).mpr full
  have isFull' := (Nat.log2_eq_iff (Nat.ne_of_gt positive')).mpr full'
  have target : min (exponent - exponent') (Format.binary64.targetExponent
      (totalExponent mantissa exponent - totalExponent mantissa' exponent')) =
        exponent - exponent' - 53 := by
    simp only [Format.targetExponent, totalExponent, Format.minExponent, Format.mantissaBits,
      isFull, isFull']
    omega
  have shift : (exponent - exponent' - (exponent - exponent' - 53)).toNat = 53 := by omega
  simp only [UnpackedFloat.div, divCore, target, shift, Nat.shiftLeft_eq]
  -- Both mantissas are full, so the quotient is between a half and two.
  have atLeast : 2 ^ 52 ≤ mantissa * 2 ^ 53 / mantissa' := by
    rw [Nat.le_div_iff_mul_le positive']
    exact Nat.mul_le_mul full.1 (Nat.le_of_lt full'.2)
  have atMost : mantissa * 2 ^ 53 / mantissa' < 2 ^ 54 := by
    rw [Nat.div_lt_iff_lt_mul positive']
    omega
  have nonzero : mantissa * 2 ^ 53 / mantissa' ≠ 0 := by omega
  have long := (Nat.le_log2 nonzero).mpr atLeast
  have below := (Nat.log2_lt nonzero).mpr atMost
  exact lies_roundWithAccuracy long (by omega) (by omega) _

theorem lies_round {mantissa : Nat} (positive : 0 < mantissa) {exponent : Int}
    (inReach : low ≤ mantissa.log2 - 52 + exponent ∧ mantissa.log2 - 52 + exponent < high)
    (least : -1074 ≤ low) :
    Lies low high (UnpackedFloat.round Format.binary64 .positive mantissa exponent) := by
  have target : Format.binary64.targetExponent (totalExponent mantissa exponent) =
      mantissa.log2 - 52 + exponent := by
    simp only [Format.targetExponent, totalExponent, Format.minExponent, Format.mantissaBits]
    omega
  obtain ⟨shift, isShift⟩ : ∃ shift, shift = 52 - mantissa.log2 := ⟨_, rfl⟩
  have amount : (exponent - (mantissa.log2 - 52 + exponent)).toNat = shift := by omega
  simp only [UnpackedFloat.round, target, decreaseExponent, amount, Nat.shiftLeft_eq]
  have isLog := log2_mul_two_pow (Nat.ne_of_gt positive) shift
  exact lies_roundWithAccuracy (by omega) least (by omega) .exact

theorem log2_add_shifted {mantissa mantissa' shift shift' : Nat}
    (full : 2 ^ 52 ≤ mantissa ∧ mantissa < 2 ^ 53) (full' : 2 ^ 52 ≤ mantissa' ∧ mantissa' < 2 ^ 53) :
    52 + max shift shift' ≤ (mantissa * 2 ^ shift + mantissa' * 2 ^ shift').log2 ∧
      (mantissa * 2 ^ shift + mantissa' * 2 ^ shift').log2 < 54 + max shift shift' := by
  obtain ⟨most, isMost⟩ : ∃ most, most = max shift shift' := ⟨_, rfl⟩
  have below : 2 ^ shift ≤ 2 ^ most := Nat.pow_le_pow_right (by decide) (by omega)
  have below' : 2 ^ shift' ≤ 2 ^ most := Nat.pow_le_pow_right (by decide) (by omega)
  have lower : 2 ^ (52 + most) ≤ mantissa * 2 ^ shift + mantissa' * 2 ^ shift' := by
    rw [Nat.pow_add]
    rcases Nat.le_total shift' shift with le | le
    · rw [isMost, Nat.max_eq_left le]
      exact Nat.le_trans (Nat.mul_le_mul_right _ full.1) (Nat.le_add_right _ _)
    · rw [isMost, Nat.max_eq_right le]
      exact Nat.le_trans (Nat.mul_le_mul_right _ full'.1) (Nat.le_add_left _ _)
  have upper : mantissa * 2 ^ shift + mantissa' * 2 ^ shift' < 2 ^ (54 + most) := by
    calc mantissa * 2 ^ shift + mantissa' * 2 ^ shift'
        ≤ mantissa * 2 ^ most + mantissa' * 2 ^ most :=
          Nat.add_le_add (Nat.mul_le_mul_left _ below) (Nat.mul_le_mul_left _ below')
      _ = (mantissa + mantissa') * 2 ^ most := (Nat.add_mul _ _ _).symm
      _ < 2 ^ 54 * 2 ^ most := Nat.mul_lt_mul_of_pos_right (by omega) (Nat.two_pow_pos most)
      _ = 2 ^ (54 + most) := (Nat.pow_add 2 54 most).symm
  have nonzero : mantissa * 2 ^ shift + mantissa' * 2 ^ shift' ≠ 0 := by
    have positive := Nat.two_pow_pos (52 + most)
    omega
  rw [← isMost]
  exact ⟨(Nat.le_log2 nonzero).mpr lower, (Nat.log2_lt nonzero).mpr upper⟩

theorem lies_add (lies : Lies low high a) (lies' : Lies low' high' b)
    (least : -1074 ≤ low) :
    Lies low (max high high' + 2) (UnpackedFloat.add Format.binary64 a b) := by
  obtain ⟨positive, full, inReach⟩ := lies
  obtain ⟨positive', full', inReach'⟩ := lies'
  rename_i mantissa exponent mantissa' exponent'
  obtain ⟨shift, isShift⟩ : ∃ shift, shift = (exponent - min exponent exponent').toNat := ⟨_, rfl⟩
  obtain ⟨shift', isShift'⟩ : ∃ shift, shift = (exponent' - min exponent exponent').toNat := ⟨_, rfl⟩
  obtain ⟨long, below⟩ := @log2_add_shifted mantissa mantissa' shift shift' full full'
  have above : 0 < mantissa * 2 ^ shift + mantissa' * 2 ^ shift' :=
    Nat.add_pos_left (Nat.mul_pos positive (Nat.two_pow_pos shift)) _
  simp only [UnpackedFloat.add, decreaseExponent, ← isShift, ← isShift', Nat.shiftLeft_eq,
    Sign.apply, ← Int.natCast_add, UnpackedFloat.normalize]
  generalize mantissa * 2 ^ shift + mantissa' * 2 ^ shift' = sum at *
  have isAbove : compare (sum : Int) 0 = .gt := by
    rw [Int.compare_eq_gt]
    omega
  rw [isAbove]
  exact lies_round above (by omega) least

theorem lies_ofNat {n : Nat} (positive : 0 < n) (below : n < 2 ^ 64) :
    Lies (-52) 12 (UnpackedFloat.ofNat Format.binary64 n) := by
  have above : compare (n : Int) 0 = .gt := by
    rw [Int.compare_eq_gt]
    omega
  have log2 : n.log2 < 64 := (Nat.log2_lt (Nat.ne_of_gt positive)).mpr below
  simp only [UnpackedFloat.ofNat, UnpackedFloat.ofInt, UnpackedFloat.normalize, above,
    Int.toNat_natCast]
  exact lies_round positive (by omega) (by decide)

end Operations

section Packing

variable {low high : Int} {a : UnpackedFloat}

theorem Lies.unpack_pack (lies : Lies low high a) (least : -1000 ≤ low) (greatest : high ≤ 971) :
    (Float.Model.pack a).unpack = a := by
  obtain ⟨positive, full, inReach⟩ := lies
  exact IsNormal.unpack_pack ⟨full, by omega⟩ .positive positive

theorem IsAtLeastOne.cases (atLeastOne : IsAtLeastOne a) :
    a = .infinity .positive ∨ ∃ high, Lies (-52) high a := by
  cases a with
  | zero => exact atLeastOne.elim
  | notANumber => exact atLeastOne.elim
  | infinity sign =>
      cases sign with
      | positive => exact Or.inl rfl
      | negative => exact atLeastOne.elim
  | finite sign mantissa exponent positive =>
      cases sign with
      | positive => exact Or.inr ⟨exponent, .finite positive atLeastOne.1 ⟨atLeastOne.2, le_rfl⟩⟩
      | negative => exact atLeastOne.elim

theorem IsAtLeastOne.isNonneg (atLeastOne : IsAtLeastOne a) : IsNonneg a := by
  rcases atLeastOne.cases with rfl | ⟨high, ⟨positive, full, inReach⟩⟩
  · trivial
  · trivial

theorem unpack_pack_infinity (sign : Sign) :
    (Float.Model.pack (.infinity sign)).unpack = .infinity sign := by
  cases sign <;> rfl

theorem unpack_pack_of_overflow (sign : Sign) {mantissa : Nat} {exponent : Int}
    (positive : 0 < mantissa) (overflow : 971 < exponent) :
    (Float.Model.pack (.finite sign mantissa exponent positive)).unpack = .infinity sign := by
  have infinite : 2 ^ 11 ≤ (exponent + Format.binary64.exponentBias +
      Format.binary64.mantissaBitsWithoutImplicit).toNat + 1 := by
    simp only [Format.exponentBias]
    omega
  have packed : Float.Model.pack (.finite sign mantissa exponent positive) =
      Float.Model.pack (.infinity sign) := by
    simp only [Float.Model.pack, UnpackedFloat.pack, if_pos infinite]
  rw [packed, unpack_pack_infinity]

theorem IsAmount.isNonneg {number : UnpackedFloat} (amount : IsAmount number) :
    IsNonneg number := by
  cases number with
  | zero => trivial
  | finite sign =>
      cases sign with
      | positive => trivial
      | negative => exact amount.elim
  | infinity => exact amount.elim
  | notANumber => exact amount.elim

theorem IsNonneg.unpack_pack (nonneg : IsNonneg a) : IsNonneg (Float.Model.pack a).unpack := by
  cases a with
  | zero sign => cases sign <;> trivial
  | infinity sign =>
      cases sign with
      | positive => rw [unpack_pack_infinity]; trivial
      | negative => exact nonneg.elim
  | notANumber => exact nonneg.elim
  | finite sign mantissa exponent positive =>
      cases sign with
      | negative => exact nonneg.elim
      | positive =>
          by_cases overflow : 971 < exponent
          · rw [unpack_pack_of_overflow .positive positive overflow]
            trivial
          · exact (isAmount_unpack_pack positive (Int.not_lt.mp overflow)).isNonneg

theorem Lies.isAtLeastOne_unpack_pack (lies : Lies (-52) high a) :
    IsAtLeastOne (Float.Model.pack a).unpack := by
  obtain ⟨positive, full, inReach⟩ := lies
  rename_i mantissa exponent
  by_cases overflow : 971 < exponent
  · rw [unpack_pack_of_overflow .positive positive overflow]
    trivial
  · have normal : IsNormal mantissa exponent := ⟨full, by omega⟩
    rw [normal.unpack_pack]
    exact ⟨full, inReach.1⟩

end Packing

/-! Sums, quotients and whole numbers that are far from both ends. -/

section Values

variable {low high low' high' : Int} {x y : Float} (lies : Lies low high x.toModel.unpack)
  (lies' : Lies low' high' y.toModel.unpack)

include lies lies'

theorem lies_value_add (least : -1000 ≤ low) (greatest : max high high' ≤ 969) :
    Lies low (max high high' + 2) (x + y).toModel.unpack := by
  have sum := lies_add lies lies' (by omega)
  change Lies low _ (Float.Model.pack (UnpackedFloat.add Format.binary64 x.toModel.unpack
    y.toModel.unpack)).unpack
  rwa [sum.unpack_pack least (by omega)]

theorem lies_value_div (least : -947 ≤ low - high') (greatest : high - low' ≤ 1022) :
    Lies (low - high' - 53) (high - low' - 51) (x / y).toModel.unpack := by
  have quotient := lies_div lies lies' (by omega)
  change Lies _ _ (Float.Model.pack (UnpackedFloat.div Format.binary64 x.toModel.unpack
    y.toModel.unpack)).unpack
  rwa [quotient.unpack_pack (by omega) (by omega)]

end Values

section Zero

variable {low high : Int} {sign : Sign} {x y : Float} (zero : x.toModel.unpack = .zero sign)
  (lies : Lies low high y.toModel.unpack) (least : -1000 ≤ low) (greatest : high ≤ 971)

include zero lies least greatest

theorem lies_value_zero_add : Lies low high (x + y).toModel.unpack := by
  have same : UnpackedFloat.add Format.binary64 x.toModel.unpack y.toModel.unpack =
      y.toModel.unpack := by
    rw [zero]
    generalize y.toModel.unpack = b at lies
    cases lies
    rfl
  change Lies _ _ (Float.Model.pack (UnpackedFloat.add Format.binary64 x.toModel.unpack
    y.toModel.unpack)).unpack
  rwa [same, lies.unpack_pack least greatest]

theorem lies_value_add_zero : Lies low high (y + x).toModel.unpack := by
  have same : UnpackedFloat.add Format.binary64 y.toModel.unpack x.toModel.unpack =
      y.toModel.unpack := by
    rw [zero]
    generalize y.toModel.unpack = b at lies
    cases lies
    rfl
  change Lies _ _ (Float.Model.pack (UnpackedFloat.add Format.binary64 y.toModel.unpack
    x.toModel.unpack)).unpack
  rwa [same, lies.unpack_pack least greatest]

end Zero

theorem lies_toFloat {n : Nat} (positive : 0 < n) (below : n < 2 ^ 64) :
    Lies (-52) 12 (UInt64.ofNat n).toFloat.toModel.unpack := by
  have lies := lies_ofNat positive below
  have whole : (UInt64.ofNat n).toNat = n := UInt64.toNat_ofNat_of_lt' below
  change Lies _ _ (Float.Model.pack (UnpackedFloat.ofNat Format.binary64
    (UInt64.ofNat n).toNat)).unpack
  rwa [whole, lies.unpack_pack (by decide) (by decide)]

/-! The order. -/

section Order

variable {x y : Float}

theorem zero_le_iff : 0 ≤ x ↔ IsNonneg x.toModel.unpack := by
  have zero : (0 : Float).toModel.unpack = .zero .positive := rfl
  change decide ((0 : Float).toModel.unpack.le x.toModel.unpack = true) = true ↔ _
  rw [decide_eq_true_eq, zero]
  generalize x.toModel.unpack = number
  cases number with
  | zero sign => exact iff_of_true rfl trivial
  | notANumber => exact iff_of_false Bool.false_ne_true id
  | infinity sign =>
      cases sign with
      | positive => exact iff_of_true rfl trivial
      | negative => exact iff_of_false Bool.false_ne_true id
  | finite sign =>
      cases sign with
      | positive => exact iff_of_true rfl trivial
      | negative => exact iff_of_false Bool.false_ne_true id

theorem isNaN_of_zero_le (nonneg : 0 ≤ x) : x.isNaN = false := by
  rw [zero_le_iff] at nonneg
  change x.toModel.unpack.isNaN = false
  generalize x.toModel.unpack = number at *
  cases number with
  | zero => rfl
  | finite => rfl
  | infinity => rfl
  | notANumber => exact nonneg.elim

theorem zero_le_floatRank (nonneg : 0 ≤ x) : 0 ≤ floatRank x := by
  have zero : (0 : Float).isNaN = false := by decide
  have isRank := (le_iff_floatRank_le zero (isNaN_of_zero_le nonneg)).mp nonneg
  exact isRank

theorem ofFloat_of_zero_le (nonneg : 0 ≤ x) :
    ofFloat x = .infinite false ∧ floatRank x = 2047 * 2 ^ 52 ∨
      ∃ negative mantissa exponent, ofFloat x = .finite negative mantissa exponent ∧
        (negative && mantissa ≠ 0) = false ∧ mantissa < 2 ^ 53 ∧
          (exponent = -1074 ∨ 2 ^ 52 ≤ mantissa) ∧ floatRank x = magnitudeOf mantissa exponent := by
  have isNumber : isNotANumber x = false := (isNotANumber_eq x).trans (isNaN_of_zero_le nonneg)
  have rank := zero_le_floatRank nonneg
  have power (k : Nat) : powerOfTwo k = 2 ^ k := rfl
  have below : x.toBits.toNat < 2 ^ 64 := x.toBits.toNat_lt
  rw [isNotANumber, decide_eq_false_iff_not] at isNumber
  rw [floatRank] at *
  rw [ofFloat, ofBits]
  generalize x.toBits.toNat = code at *
  simp only [power, largestField] at *
  have atMost : code ≤ 2 ^ 63 := by split at rank <;> omega
  by_cases full : code / 2 ^ 52 % 2 ^ 11 = 2047
  · have none : code % 2 ^ 52 = 0 := by omega
    have unsigned : ¬code / 2 ^ 63 = 1 := by omega
    refine Or.inl ⟨?_, by split <;> omega⟩
    rw [if_pos full, if_pos none, decide_eq_false unsigned]
  · refine Or.inr ?_
    by_cases least : code / 2 ^ 52 % 2 ^ 11 = 0
    · refine ⟨decide (code / 2 ^ 63 = 1), code % 2 ^ 52, -1074, ?_, ?_, by omega, Or.inl rfl, ?_⟩
      · rw [if_neg full, if_pos least]
      · rw [Bool.and_eq_false_iff, decide_eq_false_iff_not, decide_eq_false_iff_not]
        omega
      · rw [magnitudeOf]
        split <;> omega
    · have unsigned : ¬code / 2 ^ 63 = 1 := by omega
      refine ⟨false, 2 ^ 52 + code % 2 ^ 52, (code / 2 ^ 52 % 2 ^ 11 : Nat) - 1075, ?_, rfl,
        by omega, Or.inr (by omega), ?_⟩
      · rw [if_neg full, if_neg least, decide_eq_false unsigned]
      · rw [magnitudeOf]
        split <;> omega

theorem one_le_iff : 1 ≤ x ↔ IsAtLeastOne x.toModel.unpack := by
  have one : (1 : Float).toModel.unpack = .finite .positive (2 ^ 52) (-52) (by decide) := rfl
  change decide ((1 : Float).toModel.unpack.le x.toModel.unpack = true) = true ↔ _
  rw [decide_eq_true_eq, one]
  rcases unpack_cases x with ⟨_, isNone⟩ | ⟨_, isCanonical, _⟩
  · rw [isNone]
    exact iff_of_false Bool.false_ne_true id
  · generalize x.toModel.unpack = number at isCanonical
    cases isCanonical with
    | zero sign => exact iff_of_false Bool.false_ne_true id
    | infinity sign =>
        cases sign with
        | positive => exact iff_of_true rfl trivial
        | negative => exact iff_of_false Bool.false_ne_true id
    | finite sign positive small inReach full =>
        rename_i mantissa exponent
        cases sign with
        | negative => exact iff_of_false Bool.false_ne_true id
        | positive =>
            have compared : (UnpackedFloat.finite .positive (2 ^ 52) (-52) (by decide)).le
                (.finite .positive mantissa exponent positive) =
                  ((compare (-52) exponent).then (compare (2 ^ 52) mantissa)).isLE := rfl
            rw [compared, IsAtLeastOne]
            rcases lt_trichotomy (-52) exponent with less | rfl | less
            · rw [compare_lt_iff_lt.mpr less]
              exact iff_of_true rfl (by omega)
            · rw [compare_eq_iff_eq.mpr rfl, Ordering.eq_then, Ordering.isLE_iff_ne_gt, ← ne_eq,
                compare_le_iff_le]
              omega
            · rw [compare_gt_iff_gt.mpr less]
              exact iff_of_false Bool.false_ne_true (by omega)

theorem zero_le_of_one_le (atLeastOne : 1 ≤ x) : 0 ≤ x := by
  rw [one_le_iff] at atLeastOne
  rw [zero_le_iff]
  exact atLeastOne.isNonneg

theorem one_le_mul (atLeastOne : 1 ≤ x) (atLeastOne' : 1 ≤ y) : 1 ≤ x * y := by
  rw [one_le_iff] at *
  change IsAtLeastOne (Float.Model.pack (UnpackedFloat.mul Format.binary64 x.toModel.unpack
    y.toModel.unpack)).unpack
  generalize x.toModel.unpack = a at atLeastOne
  generalize y.toModel.unpack = b at atLeastOne'
  have infinite : IsAtLeastOne (Float.Model.pack (.infinity .positive)).unpack := by
    rw [unpack_pack_infinity]
    trivial
  rcases atLeastOne.cases with rfl | ⟨high, lies⟩
  · rcases atLeastOne'.cases with rfl | ⟨high', lies'⟩
    · exact infinite
    · cases lies'
      exact infinite
  · rcases atLeastOne'.cases with rfl | ⟨high', lies'⟩
    · cases lies
      exact infinite
    · exact (lies_mul lies lies' (by decide)).isAtLeastOne_unpack_pack

theorem zero_le_mul {low high : Int} (nonneg : 0 ≤ x) (lies : Lies low high y.toModel.unpack) :
    0 ≤ x * y := by
  rw [zero_le_iff] at *
  change IsNonneg (Float.Model.pack (UnpackedFloat.mul Format.binary64 x.toModel.unpack
    y.toModel.unpack)).unpack
  refine IsNonneg.unpack_pack ?_
  generalize x.toModel.unpack = a at nonneg
  generalize y.toModel.unpack = b at lies
  obtain ⟨positive, full, inReach⟩ := lies
  cases a with
  | zero sign => trivial
  | notANumber => exact nonneg.elim
  | infinity sign =>
      cases sign with
      | positive => trivial
      | negative => exact nonneg.elim
  | finite sign =>
      cases sign with
      | positive => exact isNonneg_roundWithAccuracy _ _ _
      | negative => exact nonneg.elim

theorem zero_le_inverse (atLeastOne : 1 ≤ x) : 0 ≤ 1 / x := by
  have one : (1 : Float).toModel.unpack = .finite .positive (2 ^ 52) (-52) (by decide) := rfl
  rw [one_le_iff] at atLeastOne
  rw [zero_le_iff]
  change IsNonneg (Float.Model.pack (UnpackedFloat.div Format.binary64 (1 : Float).toModel.unpack
    x.toModel.unpack)).unpack
  refine IsNonneg.unpack_pack ?_
  rw [one]
  generalize x.toModel.unpack = a at atLeastOne
  rcases atLeastOne.cases with rfl | ⟨high, ⟨positive, full, inReach⟩⟩
  · trivial
  · exact isNonneg_roundWithAccuracy _ _ _

end Order

end IngressMeter.Binary
