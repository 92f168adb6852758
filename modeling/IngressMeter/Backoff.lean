import IngressMeter.Decimal.Binary

/-!
Waiting longer and longer between attempts. A delay is the first one times a power of a factor, but
never more than a cap. The product is made before the cap is applied, and it may be too large for a
time span. The part of a tenth at most that chance adds to each delay of the standard policy is left
out, so these delays are the shortest that can occur.
-/

namespace IngressMeter

/-- Time spans are nanoseconds. -/
structure BackoffPolicy where
  base : Nat
  factor : Float
  cap : Nat
  maxTries : Nat

def BackoffPolicy.standard : BackoffPolicy := ⟨1000000000, 2, 60000000000, 10⟩

structure Backoff where
  policy : BackoffPolicy := .standard
  attempt : Nat := 0

inductive NextDelay where
  | delay (nanoseconds : Nat)
  | exhausted
  /-- The product is negative, no number, or longer than any time span. -/
  | outOfRange
  deriving DecidableEq, Repr

namespace Backoff

def powerBySquares : Nat → Float → Float → Nat → Float
  | 0, result, _, _ => result
  | bits + 1, result, square, exponent =>
    let result := if exponent % 2 = 1 then result * square else result
    if exponent / 2 = 0 then result
    else powerBySquares bits result (square * square) (exponent / 2)

/-- The power for an attempt. Attempts are counted in 32 bits, which are then read with a sign, so
the exponents of the upper half are negative. -/
def power (x : Float) (attempt : Nat) : Float :=
  if attempt < powerOfTwo 31 then powerBySquares 64 1 x attempt
  else 1 / powerBySquares 64 1 x (powerOfTwo 32 - attempt)

def toSeconds (nanoseconds : Nat) : Float :=
  (UInt64.ofNat (nanoseconds / 1000000000)).toFloat +
    (UInt64.ofNat (nanoseconds % 1000000000)).toFloat / 1000000000

/-- Seconds rounded to the nearest nanosecond, a half to the even one. -/
def ofSeconds? (seconds : Float) : Option Nat :=
  match Binary.ofFloat seconds with
  | .finite negative mantissa exponent =>
    if negative && mantissa ≠ 0 then none
    else
      let rounded :=
        Binary.roundDiv (mantissa * powerOfTwo exponent.toNat * 1000000000) (powerOfTwo (-exponent).toNat)
      if rounded < powerOfTwo 64 * 1000000000 then some rounded else none
  | _ => none

def next (backoff : Backoff) : Backoff × NextDelay :=
  if backoff.policy.maxTries ≤ backoff.attempt then (backoff, .exhausted)
  else
    let scale := power backoff.policy.factor backoff.attempt
    match ofSeconds? (scale * toSeconds backoff.policy.base) with
    | none => (backoff, .outOfRange)
    | some product =>
      ({ backoff with attempt := backoff.attempt + 1 }, .delay (min product backoff.policy.cap))

def reset (backoff : Backoff) : Backoff := { backoff with attempt := 0 }

end Backoff

end IngressMeter
