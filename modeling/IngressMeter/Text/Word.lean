import IngressMeter.Text.Property

/-!
Word characters: letters and other alphabetic characters, marks, decimal digits, connecting
punctuation and the two join controls.
-/

namespace IngressMeter

def isAsciiWord (c : Char) : Bool :=
  ('0' ≤ c && c ≤ '9') || ('a' ≤ c && c ≤ 'z') || ('A' ≤ c && c ≤ 'Z') || c = '_'

def wordCategories : List Category :=
  [.nonspacingMark, .spacingMark, .enclosingMark, .decimalNumber, .connectorPunctuation]

def isWideWord (code : Nat) : Bool :=
  CharProperty.alphabetic.contains code || wordCategories.any (·.contains code) ||
    code = 0x200C || code = 0x200D

def isWord (c : Char) : Bool := isAsciiWord c || (128 ≤ c.toNat && isWideWord c.toNat)

end IngressMeter
