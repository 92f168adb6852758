import IngressMeter.Json.Basic

/-!
What a written number stands for. An integer has neither point nor exponent and is not minus zero.
An amount is computed from at most 64 bits of leading digits and one power of ten, so the last place
of a long number may differ from the nearest one.
-/

namespace IngressMeter.Json.Number

def isInteger (n : Number) : Bool :=
  n.fraction.isNone && n.exponent.isNone && !(n.negative && n.whole = ['0'])

def toInt? (n : Number) : Option Int :=
  if n.isInteger then
    let magnitude : Int := Decimal.digitsValue n.whole 0
    some (if n.negative then -magnitude else magnitude)
  else none

def toUnsigned? (bound : Nat) (n : Number) : Option Nat :=
  match n.toInt? with
  | some (.ofNat value) => if value < bound then some value else none
  | _ => none

def toInt64? (n : Number) : Option Int :=
  n.toInt?.filter (fitsSigned 64)

def takeDigits (start : Nat) : List Char → Nat × List Char
  | [] => (start, [])
  | digit :: rest =>
    let next := start * 10 + Decimal.digitValue digit
    if next < powerOfTwo 64 then takeDigits next rest else (start, digit :: rest)

def significand (n : Number) : Nat × Int :=
  let (whole, left) := takeDigits 0 n.whole
  let fraction := n.fraction.getD []
  let (value, unread) := takeDigits whole fraction
  (value, (left.length : Int) - (fraction.length - unread.length : Nat))

def reduce : Nat → Float → Int → Float × Int
  | 0, value, exponent => (value, exponent)
  | fuel + 1, value, exponent =>
    if exponent < -308 && value != 0 then reduce fuel (value / 1e308) (exponent + 308)
    else (value, exponent)

def tens (exponent : Nat) : Float := Binary.nearest false (powerOfTen exponent) 1

def scale? (significand : Nat) (exponent : Int) : Option Float :=
  let start := (UInt64.ofNat significand).toFloat
  let (value, exponent) := reduce 4 start exponent
  if value == 0 then some value
  else if 308 < exponent then none
  else if 0 ≤ exponent then
    let scaled := value * tens exponent.toNat
    if scaled.isInf then none else some scaled
  else some (value / tens (-exponent).toNat)

/-- The exponent as written, cut off where it can only mean zero or infinity. -/
def exponentValue (n : Number) : Int :=
  match n.exponent with
  | none => 0
  | some (negative, digits) =>
    let magnitude : Int := min (Decimal.digitsValue digits 0) (powerOfTwo 31)
    if negative then -magnitude else magnitude

def toFloat? (n : Number) : Option Float :=
  let (digits, scale) := n.significand
  (scale? digits (scale + n.exponentValue)).map fun value => if n.negative then -value else value

end IngressMeter.Json.Number
