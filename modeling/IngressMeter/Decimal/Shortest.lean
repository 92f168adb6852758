import IngressMeter.Decimal.Binary

/-!
The shortest decimal digits that read back to a floating-point number. All arithmetic is exact; of
two candidates of the same length the nearer is taken, and of two equally near the larger.
-/

namespace IngressMeter.Shortest

/-- A positive rational interval over one denominator: the value and the bounds of what rounds to
it. -/
structure Interval where
  low : Nat
  value : Nat
  high : Nat
  denominator : Nat
  closed : Bool

def Interval.contains (interval : Interval) (numerator scale : Nat) : Bool :=
  let candidate := numerator * scale
  if interval.closed then interval.low ≤ candidate && candidate ≤ interval.high
  else interval.low < candidate && candidate < interval.high

/-- The numbers that round to `mantissa * 2 ^ exponent`. Below a power of two the gap to the next
smaller number is half as wide. -/
def interval (mantissa : Nat) (exponent : Int) : Interval :=
  let up := powerOfTwo (exponent - 2).toNat
  let narrow := mantissa = powerOfTwo 52 && -1074 < exponent
  { low := (4 * mantissa - if narrow then 1 else 2) * up
    value := 4 * mantissa * up
    high := (4 * mantissa + 2) * up
    denominator := powerOfTwo (2 - exponent).toNat
    closed := mantissa % 2 = 0 }

structure Digits where
  coefficient : Nat
  exponent : Int

def onGrid? (interval : Interval) (exponent : Int) : Option Digits :=
  let step := powerOfTen exponent.toNat * interval.denominator
  let scale := powerOfTen (-exponent).toNat
  let scaled : Interval :=
    { interval with
      low := interval.low * scale, value := interval.value * scale, high := interval.high * scale }
  let below := scaled.value / step
  let above := below + 1
  let belowFits := scaled.contains below step
  let aboveFits := scaled.contains above step
  let aboveNearer := above * step - scaled.value ≤ scaled.value - below * step
  if aboveFits && (aboveNearer || !belowFits) then some ⟨above, exponent⟩
  else if belowFits then some ⟨below, exponent⟩
  else none

def search (interval : Interval) : Nat → Int → Option Digits
  | 0, _ => none
  | fuel + 1, exponent => onGrid? interval exponent <|> search interval fuel (exponent - 1)

def topExponent (interval : Interval) : Int :=
  let power : Int := (interval.high.log2 : Int) - interval.denominator.log2 + 1
  if 0 ≤ power then power * 30103 / 100000 + 1 else power * 30102 / 100000 + 1

def digits (mantissa : Nat) (exponent : Int) : Digits :=
  let bounds := interval mantissa exponent
  (search bounds 22 (topExponent bounds)).getD ⟨mantissa, 0⟩

end IngressMeter.Shortest
