import IngressMeter.Decimal.Power

/-!
The exact value of a floating-point number, and the floating-point number nearest to an exact value.
All arithmetic here is on natural numbers.
-/

namespace IngressMeter

/-- What a 64-bit floating-point number stands for: an infinity, no number, or
`mantissa * 2 ^ exponent` with a sign. -/
inductive Binary where
  | nan
  | infinite (negative : Bool)
  | finite (negative : Bool) (mantissa : Nat) (exponent : Int)
  deriving BEq, DecidableEq

namespace Binary

def ofBits (bits : UInt64) : Binary :=
  let code := bits.toNat
  let negative := code / powerOfTwo 63 = 1
  let biased : Nat := code / powerOfTwo 52 % powerOfTwo 11
  let fraction : Nat := code % powerOfTwo 52
  if biased = 2047 then
    if fraction = 0 then infinite negative else nan
  else if biased = 0 then finite negative fraction (-1074)
  else finite negative (powerOfTwo 52 + fraction) ((biased : Int) - 1075)

def ofFloat (x : Float) : Binary := ofBits x.toBits

/-- A quotient rounded to the nearest integer, a half to the even one. -/
def roundDiv (numerator denominator : Nat) : Nat :=
  let quotient := numerator / denominator
  let twice := 2 * (numerator % denominator)
  if twice < denominator then quotient
  else if denominator < twice then quotient + 1
  else quotient + quotient % 2

def signBit (negative : Bool) : Nat := if negative then powerOfTwo 63 else 0

def largestField : Nat := 2047 * powerOfTwo 52

/-- The bits of the number nearest to `numerator / denominator`, a tie going to the even mantissa.
Where the quotient rounds up to the next power of two, or past the largest number, the carry into
the exponent field gives the right bits. -/
def nearestBits (negative : Bool) (numerator denominator : Nat) : Nat :=
  if numerator = 0 then signBit negative
  else
    let magnitude : Int := (numerator.log2 : Int) - denominator.log2
    let atLeast (power : Int) : Bool :=
      denominator * powerOfTwo power.toNat ≤ numerator * powerOfTwo (-power).toNat
    let power := if atLeast magnitude then magnitude else magnitude - 1
    if 1024 ≤ power then signBit negative + largestField
    else
      let unit : Int := max (power - 52) (-1074)
      let rounded :=
        roundDiv (numerator * powerOfTwo (-unit).toNat) (denominator * powerOfTwo unit.toNat)
      let field := (unit + 1074).toNat
      signBit negative + min (field * powerOfTwo 52 + rounded) largestField

def nearest (negative : Bool) (numerator denominator : Nat) : Float :=
  Float.ofBits (UInt64.ofNat (nearestBits negative numerator denominator))

end Binary

def floatRank (x : Float) : Int :=
  let code := x.toBits.toNat
  if code < powerOfTwo 63 then code else (powerOfTwo 63 : Int) - code

def isNotANumber (x : Float) : Bool := Binary.largestField < x.toBits.toNat % powerOfTwo 63

end IngressMeter
