import IngressMeter.Text.Blank
import IngressMeter.Text.CaseFold
import IngressMeter.Text.Digit
import IngressMeter.Text.Script
import IngressMeter.Text.Word

/-!
The sets of characters that a pattern can name.
-/

namespace IngressMeter

inductive CharClass where
  | ranges (table : List (Nat × Nat))
  | digit
  | blank
  | word
  | categories (kinds : List Category)
  | script (kind : Script)
  | property (kind : CharProperty)
  | union (first second : CharClass)
  | both (first second : CharClass)
  | less (first second : CharClass)
  | either (first second : CharClass)
  | complement (inner : CharClass)
  /-- The characters that are the same up to case as one of `inner`. -/
  | fold (inner : CharClass)

namespace CharClass

def none : CharClass := ranges []

def single (c : Char) : CharClass := ranges [(c.toNat, c.toNat)]

def mem (code : Nat) : CharClass → Bool
  | ranges table => table.any fun (first, last) => first ≤ code && code ≤ last
  | digit => isDecimalDigit (Char.ofNat code)
  | blank => isBlank (Char.ofNat code)
  | word => isWord (Char.ofNat code)
  | categories kinds => kinds.any (·.contains code)
  | script kind => kind.contains code
  | property kind => kind.contains code
  | union first second => mem code first || mem code second
  | both first second => mem code first && mem code second
  | less first second => mem code first && !mem code second
  | either first second => mem code first != mem code second
  | complement inner => !mem code inner
  | fold inner => (CaseFold.orbit code).any fun other => mem other inner

def accepts (accepted : CharClass) (c : Char) : Bool := accepted.mem c.toNat

def asciiDigit : CharClass := ranges [(48, 57)]

def asciiBlank : CharClass := ranges [(9, 13), (32, 32)]

def asciiWord : CharClass := ranges [(48, 57), (65, 90), (95, 95), (97, 122)]

def named? : String → Option CharClass
  | "alnum" => some (ranges [(48, 57), (65, 90), (97, 122)])
  | "alpha" => some (ranges [(65, 90), (97, 122)])
  | "ascii" => some (ranges [(0, 127)])
  | "blank" => some (ranges [(9, 9), (32, 32)])
  | "cntrl" => some (ranges [(0, 31), (127, 127)])
  | "digit" => some asciiDigit
  | "graph" => some (ranges [(33, 126)])
  | "lower" => some (ranges [(97, 122)])
  | "print" => some (ranges [(32, 126)])
  | "punct" => some (ranges [(33, 47), (58, 64), (91, 96), (123, 126)])
  | "space" => some asciiBlank
  | "upper" => some (ranges [(65, 90)])
  | "word" => some asciiWord
  | "xdigit" => some (ranges [(48, 57), (65, 70), (97, 102)])
  | _ => Option.none

end IngressMeter.CharClass
