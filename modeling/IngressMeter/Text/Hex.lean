/-!
Hexadecimal digits, in either case.
-/

namespace IngressMeter

def hexValue? (c : Char) : Option Nat :=
  if '0' ≤ c && c ≤ '9' then some (c.toNat - '0'.toNat)
  else if 'a' ≤ c && c ≤ 'f' then some (c.toNat - 'a'.toNat + 10)
  else if 'A' ≤ c && c ≤ 'F' then some (c.toNat - 'A'.toNat + 10)
  else none

def isHexDigit (c : Char) : Bool := (hexValue? c).isSome

def hexNumber? (digits : List Char) : Option Nat :=
  digits.foldlM (fun value c => (hexValue? c).map (value * 16 + ·)) 0

def isCharCode (code : Nat) : Bool := code < 0xD800 || (0xE000 ≤ code && code < 0x110000)

def charOfHex? (digits : List Char) : Option Char :=
  ((hexNumber? digits).filter fun code => !digits.isEmpty && isCharCode code).map Char.ofNat

end IngressMeter
