import IngressMeter.Decimal.Text
import IngressMeter.Metrics.Series

/-!
The text that a scrape reads. Families stand in the order of their names, each with its help and
type and one line for each value; labels stand in the order of their names and series in the order
of their labels. A family without series is left out.
-/

namespace IngressMeter

namespace Exposition

abbrev LabelPair := String × String

inductive Samples where
  | counter (series : List (List LabelPair × Nat))
  | gauge (series : List (List LabelPair × Float))
  | histogram (series : List (List LabelPair × Histogram))

structure Family where
  name : String
  help : String
  samples : Samples

def escapeChar (c : Char) : List Char :=
  match c with
  | '\\' => ['\\', '\\']
  | '"' => ['\\', '"']
  | '\n' => ['\\', 'n']
  | c => [c]

def escape (value : String) : String := String.ofList (value.toList.flatMap escapeChar)

def pairText (pair : LabelPair) : String := pair.1 ++ "=\"" ++ escape pair.2 ++ "\""

def sampleLine (name : String) (pairs : List LabelPair) (value : String) : String :=
  if pairs.isEmpty then name ++ " " ++ value
  else name ++ "\x7b" ++ String.intercalate "," (pairs.map pairText) ++ "\x7d " ++ value

def histogramLines (name : String) (pairs : List LabelPair) (histogram : Histogram) : List String :=
  let bucket (bound : String) (count : Nat) :=
    sampleLine (name ++ "_bucket") (pairs ++ [("le", bound)]) (toString count)
  histogram.buckets.map (fun (bound, count) => bucket (Decimal.render bound) count) ++
    [ bucket "+Inf" histogram.count,
      sampleLine (name ++ "_sum") pairs (Decimal.render histogram.sum),
      sampleLine (name ++ "_count") pairs (toString histogram.count)]

def valuesNotAfter : List LabelPair → List LabelPair → Bool
  | first :: rest, second :: others =>
    if first.2 = second.2 then valuesNotAfter rest others else first.2 < second.2
  | _, _ => true

def sortPairs (pairs : List LabelPair) : List LabelPair := pairs.mergeSort fun a b => !(b.1 < a.1)

def label {α : Type} (names : List String) (family : SeriesMap α) : List (List LabelPair × α) :=
  (family.series.map fun (values, value) => (sortPairs (names.zip values), value)).mergeSort
    fun a b => valuesNotAfter a.1 b.1

namespace Samples

def typeName : Samples → String
  | counter _ => "counter"
  | gauge _ => "gauge"
  | histogram _ => "histogram"

def isEmpty : Samples → Bool
  | counter series => series.isEmpty
  | gauge series => series.isEmpty
  | histogram series => series.isEmpty

def lines (name : String) : Samples → List String
  | counter series => series.map fun (pairs, count) => sampleLine name pairs (toString count)
  | gauge series => series.map fun (pairs, value) => sampleLine name pairs (Decimal.render value)
  | histogram series => series.flatMap fun (pairs, value) => histogramLines name pairs value

end Samples

def Family.lines (family : Family) : List String :=
  ["# HELP " ++ family.name ++ " " ++ family.help,
    "# TYPE " ++ family.name ++ " " ++ family.samples.typeName] ++
    family.samples.lines family.name

def shown (families : List Family) : List Family :=
  (families.filter fun family => !family.samples.isEmpty).mergeSort fun a b => !(b.name < a.name)

def lines (families : List Family) : List String := (shown families).flatMap Family.lines

end Exposition

end IngressMeter
