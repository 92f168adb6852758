import IngressMeter.Text.Utf8

/-!
Series of measurements, told apart by the values of their labels. Each list of values has a slot,
which is the 64-bit FNV-1a hash of the bytes of the values, run together without a border between
them. Lists of values that have the same slot share one series; it keeps the values it began with.
-/

namespace IngressMeter

structure SeriesMap (α : Type) where
  series : List (List String × α) := []

namespace SeriesMap

variable {α : Type}

def hashByte (hash : UInt64) (byte : UInt8) : UInt64 :=
  (hash ^^^ byte.toUInt64) * 0x100000001b3

def hashText (hash : UInt64) (text : String) : UInt64 := (Utf8.encode text).foldl hashByte hash

def slot (labels : List String) : UInt64 := labels.foldl hashText 0xcbf29ce484222325

def get? (family : SeriesMap α) (labels : List String) : Option α :=
  (family.series.find? fun entry => slot entry.1 = slot labels).map (·.2)

/-- Changes the series of a slot, which begins with `start` if it is new. -/
def update (family : SeriesMap α) (labels : List String) (start : α) (change : α → α) :
    SeriesMap α :=
  if family.series.any fun entry => slot entry.1 = slot labels then
    ⟨family.series.map fun entry =>
      if slot entry.1 = slot labels then (entry.1, change entry.2) else entry⟩
  else ⟨family.series ++ [(labels, change start)]⟩

def set (family : SeriesMap α) (labels : List String) (value : α) : SeriesMap α :=
  family.update labels value fun _ => value

def increment (family : SeriesMap Nat) (labels : List String) : SeriesMap Nat :=
  family.update labels 0 (· + 1)

def remove (family : SeriesMap α) (labels : List String) : SeriesMap α :=
  ⟨family.series.filter fun entry => slot entry.1 ≠ slot labels⟩

end SeriesMap

/-- Amounts counted by the first bound that they do not exceed. -/
structure Histogram where
  bounds : List Float
  counts : List Nat
  sum : Float
  count : Nat

namespace Histogram

def start (bounds : List Float) : Histogram := ⟨bounds, bounds.map fun _ => 0, 0, 0⟩

def countIn (amount : Float) : List Float → List Nat → List Nat
  | bound :: bounds, count :: counts =>
    if amount ≤ bound then (count + 1) :: counts else count :: countIn amount bounds counts
  | _, counts => counts

def observe (histogram : Histogram) (amount : Float) : Histogram where
  bounds := histogram.bounds
  counts := countIn amount histogram.bounds histogram.counts
  sum := histogram.sum + amount
  count := histogram.count + 1

def cumulative (total : Nat) : List Float → List Nat → List (Float × Nat)
  | bound :: bounds, count :: counts =>
    (bound, total + count) :: cumulative (total + count) bounds counts
  | _, _ => []

def buckets (histogram : Histogram) : List (Float × Nat) :=
  cumulative 0 histogram.bounds histogram.counts

end Histogram

end IngressMeter
