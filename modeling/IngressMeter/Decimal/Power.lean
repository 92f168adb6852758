/-!
Powers of the two bases in which numbers are held and written.
-/

namespace IngressMeter

def powerOfTwo (exponent : Nat) : Nat := Nat.pow 2 exponent

def powerOfTen (exponent : Nat) : Nat := Nat.pow 10 exponent

def fitsSigned (bits : Nat) (value : Int) : Bool :=
  -(powerOfTwo (bits - 1) : Int) ≤ value && value < powerOfTwo (bits - 1)

end IngressMeter
