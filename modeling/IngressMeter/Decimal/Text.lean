import IngressMeter.Decimal.Shortest

/-!
Numbers as text: how amounts are written (the shortest digits that read back, never with an
exponent) and which texts are read as an unsigned integer or as a floating-point number.
-/

namespace IngressMeter.Decimal

def zeros (count : Nat) : List Char := List.replicate count '0'

def natDigits (n : Nat) : List Char := Nat.toDigits 10 n

def positional (coefficient : Nat) (exponent : Int) : List Char :=
  let digits := natDigits coefficient
  match exponent with
  | .ofNat places => digits ++ zeros places
  | .negSucc places =>
    let fraction := places + 1
    let padded := zeros (fraction + 1 - digits.length) ++ digits
    let whole := padded.length - fraction
    padded.take whole ++ '.' :: padded.drop whole

def signed (negative : Bool) (digits : List Char) : String :=
  String.ofList (if negative then '-' :: digits else digits)

def ofBinary : Binary → String
  | .nan => "NaN"
  | .infinite false => "inf"
  | .infinite true => "-inf"
  | .finite negative 0 _ => signed negative ['0']
  | .finite negative mantissa exponent =>
    let shortest := Shortest.digits mantissa exponent
    signed negative (positional shortest.coefficient shortest.exponent)

def render (x : Float) : String := ofBinary (Binary.ofFloat x)

def isDigit (c : Char) : Bool := '0' ≤ c && c ≤ '9'

def digitValue (c : Char) : Nat := c.toNat - '0'.toNat

def digitsValue (digits : List Char) (start : Nat) : Nat :=
  digits.foldl (fun value digit => value * 10 + digitValue digit) start

def digits? (text : List Char) : Option Nat :=
  if !text.isEmpty && text.all isDigit then some (digitsValue text 0) else none

def readUnsigned? (bound : Nat) (text : List Char) : Option Nat :=
  let digits := match text with
    | '+' :: rest => rest
    | _ => text
  (digits? digits).filter (· < bound)

/-- `coefficient * 10 ^ exponent` rounded to the nearest number. Exponents so large that the result
is zero or infinite whatever the digits are not raised. -/
def scientific (negative : Bool) (coefficient : Nat) (exponent : Int) : Float :=
  let magnitude : Int := (natDigits coefficient).length + exponent
  if coefficient = 0 || magnitude < -400 then Binary.nearest negative 0 1
  else if 400 < magnitude then Binary.nearest negative (powerOfTwo 1024) 1
  else Binary.nearest negative (coefficient * powerOfTen exponent.toNat) (powerOfTen (-exponent).toNat)

structure Literal where
  whole : List Char
  fraction : List Char
  exponent : Int

def Literal.coefficient (literal : Literal) : Nat :=
  digitsValue (literal.whole ++ literal.fraction) 0

def Literal.toFloat (negative : Bool) (literal : Literal) : Float :=
  scientific negative literal.coefficient (literal.exponent - literal.fraction.length)

def splitSign : List Char → Bool × List Char
  | '-' :: rest => (true, rest)
  | '+' :: rest => (false, rest)
  | text => (false, text)

def readExponent? : List Char → Option Int
  | [] => some 0
  | mark :: rest =>
    if mark = 'e' || mark = 'E' then
      let (negative, digits) := splitSign rest
      (digits? digits).map fun value => if negative then -(value : Int) else value
    else none

def readLiteral? (text : List Char) : Option Literal :=
  let (whole, rest) := text.span isDigit
  let (fraction, rest) := match rest with
    | '.' :: rest => rest.span isDigit
    | _ => ([], rest)
  if whole.isEmpty && fraction.isEmpty then none
  else (readExponent? rest).map fun exponent => ⟨whole, fraction, exponent⟩

def lowerAscii (text : List Char) : List Char := text.map Char.toLower

def readFloat? (text : List Char) : Option Float :=
  let (negative, body) := splitSign text
  let word := lowerAscii body
  if word = ['i', 'n', 'f'] || word = ['i', 'n', 'f', 'i', 'n', 'i', 't', 'y'] then
    some (Float.ofBits (UInt64.ofNat (Binary.signBit negative + Binary.largestField)))
  else if word = ['n', 'a', 'n'] then
    some (Float.ofBits (UInt64.ofNat (Binary.signBit negative + Binary.largestField + powerOfTwo 51)))
  else (readLiteral? body).map (·.toFloat negative)

end IngressMeter.Decimal
