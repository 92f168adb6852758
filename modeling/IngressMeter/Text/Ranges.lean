/-!
Membership of a code point in a sorted table of ranges.
-/

namespace IngressMeter

def searchRanges (table : Array (Nat × Nat)) (code : Nat) : Nat → Nat → Nat → Bool
  | 0, _, _ => false
  | fuel + 1, low, high =>
    if high ≤ low then false
    else
      let middle := (low + high) / 2
      match table[middle]? with
      | none => false
      | some (first, last) =>
        if code < first then searchRanges table code fuel low middle
        else if last < code then searchRanges table code fuel (middle + 1) high
        else true

def inRanges (table : Array (Nat × Nat)) (code : Nat) : Bool :=
  searchRanges table code table.size 0 table.size

end IngressMeter
