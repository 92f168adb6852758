import IngressMeter.Backoff
import IngressMeter.Proofs.Decimal.Positive
import Mathlib.Data.List.DropRight
import Mathlib.Data.List.Induction

/-!
What a policy for backing off comes to, whatever is called and in which order. The factor is at least
one, so the product of an attempt is a number or infinite; it is made before the cap is applied, and
when it is longer than any time span there is no delay and the attempt is not counted.
-/

namespace IngressMeter

/-- Delays that do not shrink from one attempt to the next. -/
structure BackoffPolicy.Grows (policy : BackoffPolicy) : Prop where
  base_pos : 0 < policy.base
  isSpan : policy.base < powerOfTwo 64 * 1000000000
  one_le_factor : 1 ≤ policy.factor

inductive BackoffCall where
  | next
  | reset
  deriving DecidableEq

def BackoffCall.tries (calls : List BackoffCall) : Nat := (calls.rtakeWhile (· = .next)).length

def BackoffPolicy.product (policy : BackoffPolicy) (attempt : Nat) : Float :=
  Backoff.power policy.factor attempt * Backoff.toSeconds policy.base

/-- What is to come of asking for the next delay after so many tries. -/
def BackoffPolicy.Promises (policy : BackoffPolicy) (tries : Nat) : NextDelay → Prop
  | .delay span => tries < policy.maxTries ∧ span ≤ policy.cap
  | .exhausted => policy.maxTries ≤ tries
  | .outOfRange => False

namespace Backoff

def tooLong : Float := 18446744073709551616

theorem rounded_lt_iff {mantissa : Nat} {exponent : Int} (small : mantissa < 2 ^ 53)
    (full : exponent < 0 ∨ 2 ^ 52 ≤ mantissa) :
    Binary.roundDiv (mantissa * powerOfTwo exponent.toNat * 1000000000)
        (powerOfTwo (-exponent).toNat) < powerOfTwo 64 * 1000000000 ↔ exponent < 12 := by
  have power (k : Nat) : powerOfTwo k = 2 ^ k := rfl
  simp only [power]
  rcases Int.lt_or_le exponent 0 with below | above
  · have whole : exponent.toNat = 0 := by omega
    refine iff_of_true ?_ (by omega)
    rw [whole, Nat.pow_zero, Nat.mul_one]
    have rounded := Binary.roundDiv_le (mantissa * 1000000000) (2 ^ (-exponent).toNat)
    have quotient := Nat.div_le_self (mantissa * 1000000000) (2 ^ (-exponent).toNat)
    omega
  · obtain ⟨shift, rfl⟩ := Int.eq_ofNat_of_zero_le above
    have exact : Binary.roundDiv (mantissa * 2 ^ shift * 1000000000) 1 =
        mantissa * 2 ^ shift * 1000000000 := by
      rw [Binary.roundDiv, Nat.mod_one, Nat.div_one]
      rfl
    have none : (-(shift : Int)).toNat = 0 := by omega
    rw [Int.toNat_natCast, none, Nat.pow_zero, exact]
    constructor
    · intro less
      by_contra far
      have power : 2 ^ 12 ≤ 2 ^ shift := Nat.pow_le_pow_right (by decide) (by omega)
      have product : 2 ^ 52 * 2 ^ 12 ≤ mantissa * 2 ^ shift := Nat.mul_le_mul (by omega) power
      omega
    · intro near
      have power : 2 ^ shift ≤ 2 ^ 11 := Nat.pow_le_pow_right (by decide) (by omega)
      have product : mantissa * 2 ^ shift ≤ (2 ^ 53 - 1) * 2 ^ 11 :=
        Nat.mul_le_mul (by omega) power
      omega

/-- What is not below zero can be rounded unless it is too long. -/
theorem ofSeconds?_eq_none_iff {seconds : Float} (nonneg : 0 ≤ seconds) :
    ofSeconds? seconds = none ↔ ¬seconds < tooLong := by
  have isNumber := Binary.isNaN_of_zero_le nonneg
  have isLimit : tooLong.isNaN = false := by decide +kernel
  have limit : floatRank tooLong = 1087 * 2 ^ 52 := by decide +kernel
  rw [Binary.lt_iff_floatRank_lt isNumber isLimit, limit, ofSeconds?]
  obtain ⟨isInfinite, rank⟩ | ⟨negative, mantissa, exponent, isFinite, unsigned, small, full, rank⟩ :=
    Binary.ofFloat_of_zero_le nonneg
  · rw [isInfinite, rank]
    decide
  · have far : exponent < 0 ∨ 2 ^ 52 ≤ mantissa := full.imp_left fun least => by omega
    rw [isFinite, rank, Binary.magnitudeOf]
    simp only [unsigned, Bool.false_eq_true, if_false, ite_eq_right_iff, reduceCtorEq, imp_false,
      rounded_lt_iff small far]
    omega

theorem one_le_powerBySquares (bits : Nat) {result square : Float} (exponent : Nat)
    (one_le_result : 1 ≤ result) (one_le_square : 1 ≤ square) :
    1 ≤ powerBySquares bits result square exponent := by
  induction bits generalizing result square exponent with
  | zero => exact one_le_result
  | succ bits ih =>
      have one_le_next : 1 ≤ if exponent % 2 = 1 then result * square else result := by
        split
        · exact Binary.one_le_mul one_le_result one_le_square
        · exact one_le_result
      rw [powerBySquares]
      split
      · exact one_le_next
      · exact ih (exponent / 2) one_le_next (Binary.one_le_mul one_le_square one_le_square)

theorem zero_le_power {factor : Float} (one_le_factor : 1 ≤ factor) (attempt : Nat) :
    0 ≤ power factor attempt := by
  have one_le_one : (1 : Float) ≤ 1 := by decide
  rw [power]
  split
  · exact Binary.zero_le_of_one_le (one_le_powerBySquares 64 _ one_le_one one_le_factor)
  · exact Binary.zero_le_inverse (one_le_powerBySquares 64 _ one_le_one one_le_factor)

theorem lies_nanoseconds {nanoseconds : Nat} (positive : 0 < nanoseconds)
    (below : nanoseconds < 1000000000) :
    Binary.Lies (-117) 13 ((UInt64.ofNat nanoseconds).toFloat / 1000000000).toModel.unpack := by
  have isBillion : (1000000000 : Float) = (UInt64.ofNat 1000000000).toFloat := by decide +kernel
  rw [isBillion]
  exact Binary.lies_value_div (Binary.lies_toFloat positive (by omega))
    (Binary.lies_toFloat (by decide) (by decide)) (by decide) (by decide)

theorem lies_toSeconds {nanoseconds : Nat} (positive : 0 < nanoseconds)
    (isSpan : nanoseconds < powerOfTwo 64 * 1000000000) :
    ∃ low high, Binary.Lies low high (toSeconds nanoseconds).toModel.unpack := by
  have power : powerOfTwo 64 = 2 ^ 64 := rfl
  have noPart : ((UInt64.ofNat 0).toFloat / 1000000000).toModel.unpack = .zero .positive := rfl
  have noWhole : (UInt64.ofNat 0).toFloat.toModel.unpack = .zero .positive := rfl
  rw [power] at isSpan
  rw [toSeconds]
  obtain ⟨whole, isWhole⟩ : ∃ whole, whole = nanoseconds / 1000000000 := ⟨_, rfl⟩
  obtain ⟨part, isPart⟩ : ∃ part, part = nanoseconds % 1000000000 := ⟨_, rfl⟩
  rw [← isWhole, ← isPart]
  rcases Nat.eq_zero_or_pos whole with rfl | hasWhole
  · have hasPart : 0 < part := by omega
    have lies := lies_nanoseconds hasPart (by omega)
    exact ⟨_, _, Binary.lies_value_zero_add noWhole lies (by decide) (by decide)⟩
  · have lies := Binary.lies_toFloat hasWhole (by omega)
    rcases Nat.eq_zero_or_pos part with rfl | hasPart
    · exact ⟨_, _, Binary.lies_value_add_zero noPart lies (by decide) (by decide)⟩
    · have liesToo := lies_nanoseconds hasPart (by omega)
      exact ⟨_, _, Binary.lies_value_add lies liesToo (by decide) (by decide)⟩

theorem zero_le_product {policy : BackoffPolicy} (grows : policy.Grows) (attempt : Nat) :
    0 ≤ policy.product attempt := by
  obtain ⟨low, high, lies⟩ := lies_toSeconds grows.base_pos grows.isSpan
  exact Binary.zero_le_mul (zero_le_power grows.one_le_factor attempt) lies

section Run

open BackoffCall

def apply (backoff : Backoff) : BackoffCall → Backoff
  | .next => backoff.next.1
  | .reset => backoff.reset

def run (policy : BackoffPolicy) (calls : List BackoffCall) : Backoff :=
  calls.foldl apply { policy }

def answer (policy : BackoffPolicy) (calls : List BackoffCall) : NextDelay :=
  (run policy calls).next.2

theorem tries_next (calls : List BackoffCall) : tries (calls ++ [.next]) = tries calls + 1 := by
  rw [tries, List.rtakeWhile_concat_pos _ _ _ (by simp), List.length_append]
  rfl

theorem tries_reset (calls : List BackoffCall) : tries (calls ++ [.reset]) = 0 := by
  rw [tries, List.rtakeWhile_concat_neg _ _ _ (by simp)]
  rfl

theorem tries_replicate (count : Nat) : tries (List.replicate count .next) = count := by
  have whole : (List.replicate count BackoffCall.next).rtakeWhile (· = .next) =
      List.replicate count .next := by
    rw [List.rtakeWhile_eq_self_iff]
    intro call isIn
    rw [List.eq_of_mem_replicate isIn]
    rfl
  rw [tries, whole, List.length_replicate]

variable {policy : BackoffPolicy} (grows : policy.Grows)

include grows

/-- An attempt is made and counted, none is left, or its product is too long. -/
theorem next_cases {backoff : Backoff} (isPolicy : backoff.policy = policy) :
    policy.maxTries ≤ backoff.attempt ∧ backoff.next = (backoff, .exhausted) ∨
      backoff.attempt < policy.maxTries ∧
        ((∃ span ≤ policy.cap, policy.product backoff.attempt < tooLong ∧
            backoff.next = ({ backoff with attempt := backoff.attempt + 1 }, .delay span)) ∨
          ¬policy.product backoff.attempt < tooLong ∧ backoff.next = (backoff, .outOfRange)) := by
  subst isPolicy
  have inRange := ofSeconds?_eq_none_iff (zero_le_product grows backoff.attempt)
  rcases Nat.lt_or_ge backoff.attempt backoff.policy.maxTries with left | used
  · refine Or.inr ⟨left, ?_⟩
    have notUsed : ¬backoff.policy.maxTries ≤ backoff.attempt := Nat.not_le.mpr left
    rw [BackoffPolicy.product] at *
    simp only [next, if_neg notUsed]
    cases found : ofSeconds? (power backoff.policy.factor backoff.attempt *
        toSeconds backoff.policy.base) with
    | none => exact Or.inr ⟨inRange.mp found, rfl⟩
    | some product =>
        rw [found] at inRange
        have fits := not_not.mp (mt inRange.mpr (Option.some_ne_none product))
        exact Or.inl ⟨min product backoff.policy.cap, Nat.min_le_right _ _, fits, rfl⟩
  · exact Or.inl ⟨used, if_pos used⟩

structure Counts (policy : BackoffPolicy) (tries : Nat) (backoff : Backoff) : Prop where
  policy_eq : backoff.policy = policy
  attempt_le : backoff.attempt ≤ tries
  made : ∀ attempt < backoff.attempt, attempt < policy.maxTries ∧ policy.product attempt < tooLong
  behind : backoff.attempt < tries →
    policy.maxTries ≤ backoff.attempt ∨ ¬policy.product backoff.attempt < tooLong

namespace Counts

omit grows

theorem start : Counts policy 0 { policy } where
  policy_eq := rfl
  attempt_le := Nat.le_refl 0
  made := fun attempt less => absurd less (Nat.not_lt_zero attempt)
  behind := fun less => absurd less (Nat.not_lt_zero 0)

theorem reset {backoff : Backoff} (isPolicy : backoff.policy = policy) :
    Counts policy 0 backoff.reset := by
  subst isPolicy
  exact start

variable {tries : Nat} {backoff : Backoff} (counts : Counts policy tries backoff)

include counts

theorem stays (isDone : policy.maxTries ≤ backoff.attempt ∨ ¬policy.product backoff.attempt < tooLong) :
    Counts policy (tries + 1) backoff where
  policy_eq := counts.policy_eq
  attempt_le := Nat.le_succ_of_le counts.attempt_le
  made := counts.made
  behind := fun _ => isDone

theorem attempt_eq (left : backoff.attempt < policy.maxTries)
    (fits : policy.product backoff.attempt < tooLong) : backoff.attempt = tries := by
  refine Nat.le_antisymm counts.attempt_le (Nat.le_of_not_lt fun less => ?_)
  rcases counts.behind less with used | far
  · exact Nat.not_lt.mpr used left
  · exact far fits

theorem counted (left : backoff.attempt < policy.maxTries)
    (fits : policy.product backoff.attempt < tooLong) :
    Counts policy (tries + 1) { backoff with attempt := backoff.attempt + 1 } where
  policy_eq := counts.policy_eq
  attempt_le := Nat.succ_le_succ counts.attempt_le
  made := by
    intro attempt less
    rcases Nat.lt_succ_iff_lt_or_eq.mp less with earlier | rfl
    · exact counts.made attempt earlier
    · exact ⟨left, fits⟩
  behind := fun less => absurd (counts.attempt_eq left fits) (Nat.ne_of_lt (Nat.lt_of_succ_lt_succ less))

include grows

theorem next : Counts policy (tries + 1) backoff.next.1 := by
  rcases next_cases grows counts.policy_eq with
    ⟨used, isNext⟩ | ⟨left, ⟨span, _, fits, isNext⟩ | ⟨far, isNext⟩⟩
  · rw [isNext]
    exact counts.stays (Or.inl used)
  · rw [isNext]
    exact counts.counted left fits
  · rw [isNext]
    exact counts.stays (Or.inr far)

theorem promises : backoff.next.2 = .outOfRange ∨ policy.Promises tries backoff.next.2 := by
  rcases next_cases grows counts.policy_eq with
    ⟨used, isNext⟩ | ⟨left, ⟨span, capped, fits, isNext⟩ | ⟨_, isNext⟩⟩
  · rw [isNext]
    exact Or.inr (Nat.le_trans used counts.attempt_le)
  · rw [isNext]
    exact Or.inr ⟨counts.attempt_eq left fits ▸ left, capped⟩
  · rw [isNext]
    exact Or.inl rfl

theorem outOfRange_iff : backoff.next.2 = .outOfRange ↔
    ∃ attempt ≤ tries, attempt < policy.maxTries ∧ ¬policy.product attempt < tooLong := by
  rcases next_cases grows counts.policy_eq with
    ⟨used, isNext⟩ | ⟨left, ⟨span, _, fits, isNext⟩ | ⟨far, isNext⟩⟩
  · rw [isNext]
    refine iff_of_false NextDelay.noConfusion ?_
    rintro ⟨attempt, _, less, far⟩
    exact far (counts.made attempt (Nat.lt_of_lt_of_le less used)).2
  · rw [isNext]
    refine iff_of_false NextDelay.noConfusion ?_
    rintro ⟨attempt, within, _, far⟩
    rw [← counts.attempt_eq left fits] at within
    rcases Nat.lt_or_eq_of_le within with earlier | rfl
    · exact far (counts.made attempt earlier).2
    · exact far fits
  · rw [isNext]
    exact iff_of_true rfl ⟨backoff.attempt, counts.attempt_le, left, far⟩

end Counts

theorem run_counts (calls : List BackoffCall) : Counts policy (tries calls) (run policy calls) := by
  induction calls using List.reverseRecOn with
  | nil => exact Counts.start
  | append_singleton calls call ih =>
      rw [run, List.foldl_append]
      cases call with
      | next =>
          rw [tries_next]
          exact ih.next grows
      | reset =>
          rw [tries_reset]
          exact Counts.reset ih.policy_eq

/-- An answer keeps the promise unless the product of an attempt up to it is too long for a time
span, and there are calls after which it does exactly if some attempt has such a product. -/
theorem run_keepsPromise_iff :
    (∀ calls, answer policy calls = .outOfRange ∨
        policy.Promises (tries calls) (answer policy calls)) ∧
      (∀ calls, answer policy calls = .outOfRange ↔
        ∃ attempt ≤ tries calls, attempt < policy.maxTries ∧ ¬policy.product attempt < tooLong) ∧
      ((∀ calls, policy.Promises (tries calls) (answer policy calls)) ↔
        ∀ attempt < policy.maxTries, policy.product attempt < tooLong) := by
  have promises := fun calls => (run_counts grows calls).promises grows
  have outOfRange_iff := fun calls => (run_counts grows calls).outOfRange_iff grows
  refine ⟨promises, outOfRange_iff, ?_⟩
  constructor
  · intro kept attempt less
    by_contra far
    have isOut : answer policy (List.replicate attempt .next) = .outOfRange :=
      (outOfRange_iff _).mpr ⟨attempt, Nat.le_of_eq (tries_replicate attempt).symm, less, far⟩
    have promised := kept (List.replicate attempt .next)
    rw [isOut] at promised
    exact promised
  · intro fits calls
    refine (promises calls).resolve_left fun isOut => ?_
    obtain ⟨attempt, _, less, far⟩ := (outOfRange_iff calls).mp isOut
    exact far (fits attempt less)

omit grows

theorem run_keepsPromise_iff_standard :
    BackoffPolicy.standard.Grows ∧
      ∀ calls, BackoffPolicy.standard.Promises (tries calls) (answer .standard calls) := by
  have grows : BackoffPolicy.standard.Grows := ⟨by decide, by decide, by decide +kernel⟩
  have fits : ∀ attempt < 10, BackoffPolicy.standard.product attempt < tooLong := by decide +kernel
  exact ⟨grows, (run_keepsPromise_iff grows).2.2.mpr fits⟩

/-- The 65th delay of a policy that doubles is 2⁶⁴ seconds before it is capped to a minute. -/
theorem doubling_outOfRange :
    (⟨1000000000, 2, 60000000000, 65⟩ : BackoffPolicy).Grows ∧
      tries (List.replicate 64 .next) < 65 ∧
      answer ⟨1000000000, 2, 60000000000, 65⟩ (List.replicate 64 .next) = .outOfRange := by
  refine ⟨⟨by decide, by decide, by decide +kernel⟩, ?_, ?_⟩
  · rw [tries_replicate]
    decide
  · decide +kernel

end Run

end Backoff
end IngressMeter
