import IngressMeter.Decimal.Binary
import Mathlib

/-!
Floating-point numbers in the order of their bits. Where both are numbers, one is less than another
exactly if its place among all of them comes first, and they are equal exactly if they share one.
-/

namespace IngressMeter.Binary

open Float.Model Float.Model.UnpackedFloat

def magnitudeOf (mantissa : Nat) (exponent : Int) : Int := (exponent + 1074) * 2 ^ 52 + mantissa

def place : UnpackedFloat → Int
  | .zero _ | .notANumber => 0
  | .infinity sign => sign.apply (2047 * 2 ^ 52)
  | .finite sign mantissa exponent _ => sign.apply (magnitudeOf mantissa exponent)

inductive IsCanonical : UnpackedFloat → Prop
  | zero (sign : Sign) : IsCanonical (.zero sign)
  | infinity (sign : Sign) : IsCanonical (.infinity sign)
  | finite (sign : Sign) {mantissa : Nat} {exponent : Int} (positive : 0 < mantissa)
      (small : mantissa < 2 ^ 53) (inReach : -1074 ≤ exponent ∧ exponent ≤ 971)
      (full : exponent = -1074 ∨ 2 ^ 52 ≤ mantissa) :
      IsCanonical (.finite sign mantissa exponent positive)

section Compare

variable {mantissa mantissa' : Nat} {exponent exponent' : Int}

theorem magnitudeOf_lt_of_exponent_lt (small : mantissa < 2 ^ 53) (atLeast : -1074 ≤ exponent)
    (full : exponent' = -1074 ∨ 2 ^ 52 ≤ mantissa') (less : exponent < exponent') :
    magnitudeOf mantissa exponent < magnitudeOf mantissa' exponent' := by
  rw [magnitudeOf, magnitudeOf]
  omega

theorem compare_magnitudeOf (small : mantissa < 2 ^ 53) (small' : mantissa' < 2 ^ 53)
    (atLeast : -1074 ≤ exponent) (atLeast' : -1074 ≤ exponent')
    (full : exponent = -1074 ∨ 2 ^ 52 ≤ mantissa) (full' : exponent' = -1074 ∨ 2 ^ 52 ≤ mantissa') :
    (compare exponent exponent').then (compare mantissa mantissa') =
      compare (magnitudeOf mantissa exponent) (magnitudeOf mantissa' exponent') := by
  rcases lt_trichotomy exponent exponent' with less | rfl | less
  · rw [compare_lt_iff_lt.mpr less,
      compare_lt_iff_lt.mpr (magnitudeOf_lt_of_exponent_lt small atLeast full' less)]
    rfl
  · have same : compare mantissa mantissa' =
        compare (magnitudeOf mantissa exponent) (magnitudeOf mantissa' exponent) := by
      rw [magnitudeOf, magnitudeOf]
      rcases lt_trichotomy mantissa mantissa' with less | rfl | less
      · rw [compare_lt_iff_lt.mpr less, compare_lt_iff_lt.mpr (by omega)]
      · rw [compare_eq_iff_eq.mpr rfl, compare_eq_iff_eq.mpr rfl]
      · rw [compare_gt_iff_gt.mpr less, compare_gt_iff_gt.mpr (by omega)]
    rw [compare_eq_iff_eq.mpr rfl, ← same]
    rfl
  · rw [compare_gt_iff_gt.mpr less,
      compare_gt_iff_gt.mpr (magnitudeOf_lt_of_exponent_lt small' atLeast' full less)]
    rfl

theorem compare_neg (a b : Int) : compare (-a) (-b) = (compare a b).swap := by
  rcases lt_trichotomy a b with less | rfl | less
  · rw [compare_lt_iff_lt.mpr less, compare_gt_iff_gt.mpr (by omega)]
    rfl
  · rw [compare_eq_iff_eq.mpr rfl, compare_eq_iff_eq.mpr rfl]
    rfl
  · rw [compare_gt_iff_gt.mpr less, compare_lt_iff_lt.mpr (by omega)]
    rfl

theorem magnitudeOf_bounds (positive : 0 < mantissa) (small : mantissa < 2 ^ 53)
    (inReach : -1074 ≤ exponent ∧ exponent ≤ 971) :
    0 < magnitudeOf mantissa exponent ∧ magnitudeOf mantissa exponent < 2047 * 2 ^ 52 := by
  rw [magnitudeOf]
  omega

theorem compare_eq_compare_place {a b : UnpackedFloat} (isCanonical : IsCanonical a)
    (isCanonical' : IsCanonical b) : a.compare b = some (compare (place a) (place b)) := by
  cases isCanonical with
  | zero sign =>
      cases isCanonical' with
      | zero sign' => rfl
      | infinity sign' => cases sign' <;> rfl
      | finite sign' positive small inReach full =>
          have bounds := magnitudeOf_bounds positive small inReach
          cases sign' <;> simp only [UnpackedFloat.compare, place, Sign.apply, Option.some.injEq]
          · exact (compare_gt_iff_gt.mpr (by omega)).symm
          · exact (compare_lt_iff_lt.mpr (by omega)).symm
  | infinity sign =>
      cases isCanonical' with
      | zero sign' => cases sign <;> rfl
      | infinity sign' => cases sign <;> cases sign' <;> rfl
      | finite sign' positive small inReach full =>
          have bounds := magnitudeOf_bounds positive small inReach
          cases sign <;> cases sign' <;>
            simp only [UnpackedFloat.compare, place, Sign.apply, Option.some.injEq]
          · exact (compare_lt_iff_lt.mpr (by omega)).symm
          · exact (compare_lt_iff_lt.mpr (by omega)).symm
          · exact (compare_gt_iff_gt.mpr (by omega)).symm
          · exact (compare_gt_iff_gt.mpr (by omega)).symm
  | finite sign positive small inReach full =>
      have bounds := magnitudeOf_bounds positive small inReach
      cases isCanonical' with
      | zero sign' =>
          cases sign <;> simp only [UnpackedFloat.compare, place, Sign.apply, Option.some.injEq]
          · exact (compare_lt_iff_lt.mpr (by omega)).symm
          · exact (compare_gt_iff_gt.mpr (by omega)).symm
      | infinity sign' =>
          cases sign <;> cases sign' <;>
            simp only [UnpackedFloat.compare, place, Sign.apply, Option.some.injEq]
          · exact (compare_gt_iff_gt.mpr (by omega)).symm
          · exact (compare_lt_iff_lt.mpr (by omega)).symm
          · exact (compare_gt_iff_gt.mpr (by omega)).symm
          · exact (compare_lt_iff_lt.mpr (by omega)).symm
      | finite sign' positive' small' inReach' full' =>
          have bounds' := magnitudeOf_bounds positive' small' inReach'
          have magnitudes := compare_magnitudeOf small small' inReach.1 inReach'.1 full full'
          cases sign <;> cases sign' <;>
            simp only [UnpackedFloat.compare, place, Sign.apply, Option.some.injEq]
          · rw [compare_neg, magnitudes]
          · exact (compare_lt_iff_lt.mpr (by omega)).symm
          · exact (compare_gt_iff_gt.mpr (by omega)).symm
          · exact magnitudes

end Compare

section Bits

variable (bits : BitVec Format.binary64.numBits)

theorem toNat_unpackMantissa : (unpackMantissa bits).toNat = bits.toNat % 2 ^ 52 := by
  rw [unpackMantissa, BitVec.toNat_cast, BitVec.extractLsb_toNat]
  rfl

theorem toNat_unpackExponent : (unpackExponent bits).toNat = bits.toNat / 2 ^ 52 % 2 ^ 11 := by
  rw [unpackExponent, BitVec.toNat_cast, BitVec.extractLsb_toNat, Nat.shiftRight_eq_div_pow]
  rfl

theorem toNat_unpackSign : (unpackSign bits).toNat = bits.toNat / 2 ^ 63 := by
  have below : bits.toNat < 2 ^ 64 := bits.isLt
  rw [unpackSign, BitVec.toNat_cast, BitVec.extractLsb_toNat, Nat.shiftRight_eq_div_pow]
  change bits.toNat / 2 ^ 63 % 2 ^ 1 = _
  omega

end Bits

theorem apply_unpackSign (bits : BitVec Format.binary64.numBits) (magnitude : Int) :
    (Sign.ofBitVec (unpackSign bits)).apply magnitude =
      if bits.toNat < 2 ^ 63 then magnitude else -magnitude := by
  have below : bits.toNat < 2 ^ 64 := bits.isLt
  have sign := toNat_unpackSign bits
  rw [Sign.ofBitVec]
  by_cases small : bits.toNat < 2 ^ 63
  · have zero : unpackSign bits = 0#1 := by
      rw [← BitVec.toNat_inj, sign, BitVec.toNat_zero]
      omega
    rw [if_pos zero, if_pos small]
    rfl
  · have notZero : unpackSign bits ≠ 0#1 := by
      rw [ne_eq, ← BitVec.toNat_inj, sign, BitVec.toNat_zero]
      omega
    rw [if_neg notZero, if_neg small]
    rfl

section Fields

variable {bits : BitVec Format.binary64.numBits}

theorem unpackExponent_eq_iff (exponent : BitVec 11) :
    unpackExponent bits = exponent ↔ bits.toNat / 2 ^ 52 % 2 ^ 11 = exponent.toNat := by
  rw [← toNat_unpackExponent]
  exact BitVec.toNat_inj.symm

theorem unpackMantissa_eq_zero_iff : unpackMantissa bits = 0#52 ↔ bits.toNat % 2 ^ 52 = 0 := by
  rw [← toNat_unpackMantissa, ← BitVec.toNat_inj]
  rfl

theorem unpack_of_full (full : bits.toNat / 2 ^ 52 % 2 ^ 11 = 2047) :
    UnpackedFloat.unpack Format.binary64 bits =
      if bits.toNat % 2 ^ 52 = 0 then .infinity (Sign.ofBitVec (unpackSign bits))
      else .notANumber := by
  have isFull : unpackExponent bits = -1#11 := (unpackExponent_eq_iff _).mpr full
  rw [UnpackedFloat.unpack]
  simp only [if_pos isFull]
  exact if_congr unpackMantissa_eq_zero_iff rfl rfl

theorem unpack_of_least (least : bits.toNat / 2 ^ 52 % 2 ^ 11 = 0)
    (positive : 0 < bits.toNat % 2 ^ 52) :
    UnpackedFloat.unpack Format.binary64 bits =
      .finite (Sign.ofBitVec (unpackSign bits)) (bits.toNat % 2 ^ 52) (-1074) positive := by
  have isLeast : unpackExponent bits = 0#11 := (unpackExponent_eq_iff _).mpr least
  have hasFraction : ¬unpackMantissa bits = 0#52 := by
    rw [unpackMantissa_eq_zero_iff]
    exact Nat.ne_of_gt positive
  have notFull : ¬0#11 = -1#11 := by decide
  rw [UnpackedFloat.unpack]
  simp only [isLeast, if_neg notFull, dif_neg hasFraction, toNat_unpackMantissa]
  rfl

theorem unpack_of_none (least : bits.toNat / 2 ^ 52 % 2 ^ 11 = 0)
    (none : bits.toNat % 2 ^ 52 = 0) :
    UnpackedFloat.unpack Format.binary64 bits = .zero (Sign.ofBitVec (unpackSign bits)) := by
  have isLeast : unpackExponent bits = 0#11 := (unpackExponent_eq_iff _).mpr least
  have noFraction : unpackMantissa bits = 0#52 := unpackMantissa_eq_zero_iff.mpr none
  have notFull : ¬0#11 = -1#11 := by decide
  rw [UnpackedFloat.unpack]
  simp only [isLeast, if_neg notFull, dif_pos noFraction, if_true]

theorem unpack_of_normal (notFull : bits.toNat / 2 ^ 52 % 2 ^ 11 ≠ 2047)
    (notLeast : bits.toNat / 2 ^ 52 % 2 ^ 11 ≠ 0) :
    UnpackedFloat.unpack Format.binary64 bits =
      .finite (Sign.ofBitVec (unpackSign bits)) (2 ^ 52 + bits.toNat % 2 ^ 52)
        ((bits.toNat / 2 ^ 52 % 2 ^ 11 : Nat) - 1075) (by omega) := by
  have isNotFull : ¬unpackExponent bits = -1#11 := mt (unpackExponent_eq_iff _).mp notFull
  have isNotLeast : ¬unpackExponent bits = 0#11 := mt (unpackExponent_eq_iff _).mp notLeast
  have isMantissa : (1#1 ++ unpackMantissa bits).toNat = 2 ^ 52 + bits.toNat % 2 ^ 52 := by
    rw [BitVec.toNat_append, ← Nat.shiftLeft_add_eq_or_of_lt (unpackMantissa bits).isLt,
      toNat_unpackMantissa]
    rfl
  rw [UnpackedFloat.unpack]
  simp only [if_neg isNotFull, if_neg isNotLeast, isMantissa, toNat_unpackExponent]
  rfl

theorem unpack_fields (bits : BitVec Format.binary64.numBits) :
    let field := bits.toNat / 2 ^ 52 % 2 ^ 11
    let fraction := bits.toNat % 2 ^ 52
    let number := UnpackedFloat.unpack Format.binary64 bits
    field = 2047 ∧ fraction ≠ 0 ∧ number = .notANumber ∨
      ¬(field = 2047 ∧ fraction ≠ 0) ∧ IsCanonical number ∧
        place number =
          (Sign.ofBitVec (unpackSign bits)).apply ((field * 2 ^ 52 + fraction : Nat) : Int) := by
  intro field fraction number
  have fieldBelow : field < 2 ^ 11 := Nat.mod_lt _ (by decide)
  have fractionBelow : fraction < 2 ^ 52 := Nat.mod_lt _ (by decide)
  by_cases full : field = 2047
  · have unpacked : number = _ := unpack_of_full full
    by_cases none : fraction = 0
    · rw [if_pos none] at unpacked
      refine Or.inr ⟨by omega, ?_⟩
      rw [unpacked, full, none]
      exact ⟨.infinity _, rfl⟩
    · rw [if_neg none] at unpacked
      exact Or.inl ⟨full, none, unpacked⟩
  · refine Or.inr ⟨by omega, ?_⟩
    by_cases least : field = 0
    · by_cases none : fraction = 0
      · have unpacked : number = _ := unpack_of_none least none
        rw [unpacked, least, none]
        generalize Sign.ofBitVec (unpackSign bits) = sign
        exact ⟨.zero sign, by cases sign <;> rfl⟩
      · have positive : 0 < fraction := Nat.pos_of_ne_zero none
        have unpacked : number = _ := unpack_of_least least positive
        rw [unpacked, least]
        refine ⟨.finite _ positive (by omega) (by decide) (Or.inl rfl), ?_⟩
        simp [place, magnitudeOf, fraction]
    · have unpacked : number = _ := unpack_of_normal full least
      rw [unpacked]
      refine ⟨.finite _ (by omega) (by omega) (by omega) (Or.inr (by omega)), ?_⟩
      rw [place, magnitudeOf]
      congr 1
      omega

end Fields

section Number

variable (x : Float)

theorem unpack_cases :
    isNotANumber x = true ∧ x.toModel.unpack = .notANumber ∨
      isNotANumber x = false ∧ IsCanonical x.toModel.unpack ∧
        place x.toModel.unpack = floatRank x := by
  obtain ⟨bits, isBits⟩ : ∃ bits : BitVec Format.binary64.numBits,
    x.toModel.toBits.toBitVec = bits := ⟨_, rfl⟩
  have below : bits.toNat < 2 ^ 64 := bits.isLt
  have code : x.toBits.toNat = bits.toNat := by rw [← isBits]; rfl
  have unpacked : x.toModel.unpack = UnpackedFloat.unpack Format.binary64 bits := by
    rw [← isBits]; rfl
  have power : powerOfTwo 63 = 2 ^ 63 := rfl
  have largest : largestField = 2047 * 2 ^ 52 := rfl
  rw [unpacked, isNotANumber, floatRank, code, power, largest]
  obtain ⟨full, hasFraction, isNumber⟩ | ⟨notBoth, isCanonical, isPlace⟩ := unpack_fields bits
  · refine Or.inl ⟨?_, isNumber⟩
    rw [decide_eq_true_eq]
    omega
  · refine Or.inr ⟨?_, isCanonical, ?_⟩
    · rw [decide_eq_false_iff_not]
      omega
    · rw [isPlace, apply_unpackSign]
      split <;> omega

/-- What is no number by its bits is none by its exponent and mantissa. -/
theorem isNotANumber_eq : isNotANumber x = x.isNaN := by
  obtain ⟨isNone, unpacked⟩ | ⟨isOne, isCanonical, _⟩ := unpack_cases x
  · rw [isNone, Float.isNaN, Float.Model.isNaN, unpacked]
    rfl
  · rw [isOne, Float.isNaN, Float.Model.isNaN]
    generalize x.toModel.unpack = number at *
    cases isCanonical <;> rfl

variable {x} {y : Float} (isNumber : x.isNaN = false) (isNumber' : y.isNaN = false)

include isNumber isNumber'

theorem compare_eq_compare_floatRank :
    x.toModel.unpack.compare y.toModel.unpack = some (compare (floatRank x) (floatRank y)) := by
  rw [← isNotANumber_eq] at isNumber isNumber'
  obtain ⟨_, isCanonical, isPlace⟩ := (unpack_cases x).resolve_left fun isNone => by
    simp [isNone.1] at isNumber
  obtain ⟨_, isCanonical', isPlace'⟩ := (unpack_cases y).resolve_left fun isNone => by
    simp [isNone.1] at isNumber'
  rw [compare_eq_compare_place isCanonical isCanonical', isPlace, isPlace']

theorem lt_iff_floatRank_lt : x < y ↔ floatRank x < floatRank y := by
  change decide (x.toModel.unpack.lt y.toModel.unpack = true) = true ↔ _
  rw [decide_eq_true_eq, UnpackedFloat.lt, compare_eq_compare_floatRank isNumber isNumber',
    ← compare_lt_iff_lt]
  simp

theorem le_iff_floatRank_le : x ≤ y ↔ floatRank x ≤ floatRank y := by
  change decide (x.toModel.unpack.le y.toModel.unpack = true) = true ↔ _
  rw [decide_eq_true_eq, UnpackedFloat.le, compare_eq_compare_floatRank isNumber isNumber',
    Option.any_some, ← compare_le_iff_le, Ordering.isLE_iff_ne_gt]

theorem beq_iff_floatRank_eq : (x == y) = true ↔ floatRank x = floatRank y := by
  change x.toModel.unpack.beq y.toModel.unpack = true ↔ _
  rw [UnpackedFloat.beq, compare_eq_compare_floatRank isNumber isNumber', ← compare_eq_iff_eq]
  simp

end Number

theorem compare_notANumber (a : UnpackedFloat) :
    UnpackedFloat.compare .notANumber a = none ∧ a.compare .notANumber = none := by
  cases a <;> exact ⟨rfl, rfl⟩

theorem isNaN_of_lt {x y : Float} (less : x < y) : x.isNaN = false ∧ y.isNaN = false := by
  change decide (x.toModel.unpack.lt y.toModel.unpack = true) = true at less
  rw [decide_eq_true_eq, UnpackedFloat.lt] at less
  rw [← isNotANumber_eq, ← isNotANumber_eq]
  constructor
  · obtain ⟨_, isNone⟩ | ⟨isOne, _⟩ := unpack_cases x
    · rw [isNone, (compare_notANumber _).1] at less
      contradiction
    · exact isOne
  · obtain ⟨_, isNone⟩ | ⟨isOne, _⟩ := unpack_cases y
    · rw [isNone, (compare_notANumber _).2] at less
      contradiction
    · exact isOne

theorem isNaN_of_isFinite {x : Float} (finite : x.isFinite = true) : x.isNaN = false := by
  change x.toModel.unpack.isNaN = false
  change x.toModel.unpack.isFinite = true at finite
  generalize x.toModel.unpack = number at *
  cases number with
  | zero => rfl
  | finite => rfl
  | infinity => rfl
  | notANumber => contradiction

theorem nonneg_of_isFinite {x : Float} (finite : x.isFinite = true) (notLess : ¬x < 0) : 0 ≤ x := by
  have isZero : (0 : Float).isNaN = false := by decide
  have isNumber := isNaN_of_isFinite finite
  rw [lt_iff_floatRank_lt isNumber isZero] at notLess
  rw [le_iff_floatRank_le isZero isNumber]
  exact Int.not_lt.mp notLess

theorem lt_trans {x y z : Float} (less : x < y) (lessToo : y < z) : x < z := by
  obtain ⟨isNumber, isMiddle⟩ := isNaN_of_lt less
  obtain ⟨_, isNumber'⟩ := isNaN_of_lt lessToo
  rw [lt_iff_floatRank_lt isNumber isMiddle] at less
  rw [lt_iff_floatRank_lt isMiddle isNumber'] at lessToo
  rw [lt_iff_floatRank_lt isNumber isNumber']
  exact Int.lt_trans less lessToo

theorem lt_irrefl (x : Float) : ¬x < x := by
  intro less
  obtain ⟨isNumber, _⟩ := isNaN_of_lt less
  rw [lt_iff_floatRank_lt isNumber isNumber] at less
  exact Int.lt_irrefl _ less

end IngressMeter.Binary
